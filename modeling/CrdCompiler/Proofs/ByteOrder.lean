import Mathlib.Order.Basic
import Mathlib.Data.String.Basic
import Mathlib.Data.List.Lex

/-! # Byte order

Texts are compared character by character. That is the order of their UTF-8 bytes: no encoding of a
character is a prefix of another one, and a larger character has the larger bytes.
-/

namespace CrdCompiler.Text

def bytes (text : String) : List UInt8 := text.toByteArray.data.toList

theorem bytes_eq_flatMap (text : String) :
    bytes text = text.toList.flatMap String.utf8EncodeChar := by
  have encoded : text.toByteArray = (text.toList.flatMap String.utf8EncodeChar).toByteArray := by
    conv_lhs => rw [← String.ofList_toList (s := text)]
    rfl
  rw [bytes, encoded]
  simp

theorem toNat_lt (character : Char) : character.val.toNat < 0x110000 := by
  rcases character.valid with low | ⟨_, high⟩
  · exact low.trans (by decide)
  · exact high

theorem ofNat_lt_ofNat {left right : Nat} (leftFits : left < 256) (rightFits : right < 256) :
    UInt8.ofNat left < UInt8.ofNat right ↔ left < right := by
  simp [UInt8.lt_iff_toNat_lt, Nat.mod_eq_of_lt, leftFits, rightFits]

theorem ofNat_eq_ofNat {left right : Nat} (leftFits : left < 256) (rightFits : right < 256) :
    UInt8.ofNat left = UInt8.ofNat right ↔ left = right := by
  simp [← UInt8.toNat_inj, Nat.mod_eq_of_lt, leftFits, rightFits]

theorem encode_lt_encode {left right : Char} (less : left < right) (after after' : List UInt8) :
    String.utf8EncodeChar left ++ after < String.utf8EncodeChar right ++ after' := by
  have less' : left.val.toNat < right.val.toNat := less
  have leftBounded := toNat_lt left
  have rightBounded := toNat_lt right
  have digits (code : Nat) :
      code / 4096 = code / 64 / 64 ∧ code / 262144 = code / 64 / 64 / 64 := by
    simp only [Nat.div_div_eq_div_mul, Nat.reduceMul, and_self]
  unfold String.utf8EncodeChar
  simp only [(digits _).1, (digits _).2]
  generalize left.val.toNat = left at *
  generalize right.val.toNat = right at *
  split_ifs
  all_goals
    simp (disch := omega) only [List.cons_append, List.cons_lt_cons_iff, ofNat_lt_ofNat,
      ofNat_eq_ofNat]
    omega

theorem flatMap_encode_lt {left right : List Char} (less : left < right) :
    left.flatMap String.utf8EncodeChar < right.flatMap String.utf8EncodeChar := by
  induction less with
  | nil =>
      rename_i character rest
      rw [List.flatMap_nil, List.flatMap_cons]
      cases bytes : String.utf8EncodeChar character with
      | nil => simp [String.utf8EncodeChar_ne_nil] at bytes
      | cons first others => exact .nil
  | rel less => exact encode_lt_encode less _ _
  | cons less induction => exact List.append_left_lt induction

theorem bytes_lt_bytes {left right : String} : bytes left < bytes right ↔ left < right := by
  have forwards {left right : String} (less : left < right) : bytes left < bytes right := by
    rw [bytes_eq_flatMap, bytes_eq_flatMap]
    exact flatMap_encode_lt less
  constructor
  · intro less
    rcases lt_trichotomy left right with smaller | equal | larger
    · exact smaller
    · cases equal
      cases List.lt_irrefl _ less
    · cases List.lt_asymm less (forwards larger)
  · exact forwards

theorem bytes_le_bytes {left right : String} : bytes left ≤ bytes right ↔ left ≤ right :=
  not_congr bytes_lt_bytes

end CrdCompiler.Text
