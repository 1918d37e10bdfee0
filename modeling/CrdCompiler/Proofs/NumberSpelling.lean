import CrdCompiler.Proofs.Rounding
import CrdCompiler.Yaml.Scalar
import Mathlib.Data.List.TakeWhile
import Mathlib.Data.Nat.Digits.Defs

/-! # Spellings of numbers

A number may be read as an integer or as a decimal. Integers in other bases than ten are no
decimals, and a zero in front or a minus sign before a zero is told by one of the readers alone; any
other text says the same number to both.
-/

namespace CrdCompiler

namespace Decimal

theorem toBinary64_whole {number : Integer64} {negative : Bool}
    (sign : negative = decide (number.value < 0)) :
    (Decimal.mk negative number.value.natAbs 0).toBinary64 = .ofInt number.value := by
  have short : (Nat.toDigits 10 number.value.natAbs).length ≤ 20 := by
    apply Nat.toDigits_length 10 _ 20 (by decide)
    have range := number.fits
    omega
  rw [toBinary64, Binary64.ofInt, sign]
  dsimp only
  rw [Int.add_zero, if_neg (show ¬(310 : Int) < _ by omega), if_pos le_rfl]
  by_cases zero : number.value.natAbs = 0
  · rw [if_pos (.inl zero), zero, Binary64.ofFraction, if_pos rfl]
  · rw [if_neg (by omega)]
    simp

theorem unsigned?_of_digits {digits : List Char} (written : digits ≠ [])
    (all : digits.all Char.isDigit) :
    unsigned? digits = some ⟨false, digitsValue digits, 0⟩ := by
  have each : ∀ digit ∈ digits, digit.isDigit := List.all_eq_true.mp all
  rw [unsigned?, List.takeWhile_eq_self_iff.mpr each, List.dropWhile_eq_nil_iff.mpr each]
  simp [written, exponentPart?]

end Decimal

namespace Yaml.Scalar

/-! ## Digits -/

theorem digit?_ten {digit : Char} {value : Nat} (told : digit? 10 digit = some value) :
    digit.isDigit ∧ digit.toNat - '0'.toNat = value := by
  rcases Option.filter_eq_some_iff.mp told with ⟨found, small⟩
  have small := of_decide_eq_true small
  split_ifs at found with decimal lower upper
  · exact ⟨decimal, Option.some.inj found⟩
  -- Letters stand for ten and more.
  · have same := Option.some.inj found
    omega
  · have same := Option.some.inj found
    omega

theorem digits_of_foldlM {digits : List Char} {start value : Nat}
    (told : digits.foldlM (fun value digit => (value * 10 + ·) <$> digit? 10 digit) start =
      some value) :
    digits.all Char.isDigit ∧
      digits.foldl (fun value digit => value * 10 + (digit.toNat - '0'.toNat)) start = value := by
  induction digits generalizing start with
  | nil => exact ⟨rfl, Option.some.inj told⟩
  | cons digit rest induction =>
      rw [List.foldlM_cons, Option.bind_eq_bind, Option.bind_eq_some_iff] at told
      rcases told with ⟨next, first, told⟩
      rcases Option.map_eq_some_iff.mp first with ⟨value, here, rfl⟩
      rcases digit?_ten here with ⟨decimal, rfl⟩
      rcases induction told with ⟨all, folded⟩
      exact ⟨by rw [List.all_cons, decimal, all]; rfl, folded⟩

theorem digits?_ten {digits : List Char} {value : Nat} (told : digits? 10 digits = some value) :
    Decimal.unsigned? digits = some ⟨false, value, 0⟩ := by
  rcases Option.ite_none_left_eq_some.mp told with ⟨written, told⟩
  rcases digits_of_foldlM told with ⟨all, rfl⟩
  exact Decimal.unsigned?_of_digits (fun empty => written (by rw [empty]; rfl)) all

/-! ## Integers in notation for decimals -/

def namesBase : List Char → Bool
  | '0' :: mark :: _ => mark = 'x' || mark = 'o' || mark = 'b'
  | _ => false

def withoutSign : List Char → List Char
  | '-' :: rest => rest
  | '+' :: rest => rest
  | text => text

/-- A number has no zero in front and no base, and if it is zero and an integer, no minus sign. -/
def isCommonNumber (text : String) : Bool :=
  !namesBase (withoutSign text.toList) && !hasLeadingZero text.toList &&
    !(text.toList.head? = some '-' && integer? text = some 0)

example : ["0", "12", "-3", "+3", "1.50", "-2e9", ".inf", "five"].all isCommonNumber := by decide
example : ["0x10", "-0b1", "010", "-0"].all (!isCommonNumber ·) := by decide

theorem magnitude?_decimal {digits : List Char} {value : Nat}
    (told : magnitude? digits = some value) (decimal : ¬namesBase digits) :
    Decimal.unsigned? digits = some ⟨false, value, 0⟩ := by
  rw [magnitude?.eq_def] at told
  split at told
  · exact absurd rfl decimal
  · exact absurd rfl decimal
  · exact absurd rfl decimal
  · exact digits?_ten (Option.ite_none_left_eq_some.mp told).2

theorem ofChars?_of_integer? {text : String} {value : Int} (told : integer? text = some value)
    (decimal : ¬namesBase (withoutSign text.toList))
    (signed : ¬(text.toList.head? = some '-' ∧ value = 0)) :
    Decimal.ofChars? text.toList = some ⟨decide (value < 0), value.natAbs, 0⟩ := by
  rw [integer?] at told
  generalize text.toList = characters at told decimal signed ⊢
  have whole : ∀ {digits : List Char}, (magnitude? digits).map Int.ofNat = some value →
      ¬namesBase digits →
      Decimal.unsigned? digits = some ⟨decide (value < 0), value.natAbs, 0⟩ := by
    intro digits told decimal
    rcases Option.map_eq_some_iff.mp told with ⟨magnitude, found, rfl⟩
    rw [magnitude?_decimal found decimal]
    simp
  split at told
  · rcases Option.map_eq_some_iff.mp told with ⟨magnitude, found, rfl⟩
    have positive : 0 < magnitude := by
      apply Nat.pos_of_ne_zero
      intro zero
      exact signed ⟨rfl, by rw [zero]; rfl⟩
    rw [Decimal.ofChars?, magnitude?_decimal found decimal]
    simp [positive]
  · exact whole told decimal
  · rename_i unsigned unmarked
    rw [Decimal.ofChars?.eq_def]
    rw [withoutSign.eq_def] at decimal
    split
    · exact absurd rfl (unsigned _)
    · exact absurd rfl (unmarked _)
    · split at decimal
      · exact absurd rfl (unsigned _)
      · exact absurd rfl (unmarked _)
      · exact whole told decimal

theorem integer?_of_word {text : String}
    (word : text ∈ [".inf", ".Inf", ".INF", "+.inf", "+.Inf", "+.INF", "-.inf", "-.Inf", "-.INF",
      ".nan", ".NaN", ".NAN"]) : integer? text = none := by
  simp only [List.mem_cons, List.not_mem_nil, or_false] at word
  rcases word with rfl | rfl | rfl | rfl | rfl | rfl | rfl | rfl | rfl | rfl | rfl | rfl <;> rfl

theorem number?_of_integer? {text : String} {number : Integer64} (common : isCommonNumber text)
    (told : integer? text = some number.value) : number? text = some (.ofInt number.value) := by
  simp only [isCommonNumber, Bool.and_eq_true, Bool.not_eq_true', told] at common
  rcases common with ⟨⟨decimal, -⟩, signed⟩
  have read := ofChars?_of_integer? told (by simp [decimal]) (by simpa using signed)
  have finite : ∃ value, Binary64.ofInt number.value = .finite value :=
    Binary64.ofInt_finite number
  rcases finite with ⟨value, finite⟩
  have noWord : ∀ words : List String, words.all ([".inf", ".Inf", ".INF", "+.inf", "+.Inf",
      "+.INF", "-.inf", "-.Inf", "-.INF", ".nan", ".NaN", ".NAN"].contains ·) →
      ¬words.contains text := by
    intro words each word
    have known := List.all_eq_true.mp each text (List.contains_iff_mem.mp word)
    rw [integer?_of_word (List.contains_iff_mem.mp known)] at told
    cases told
  rw [number?, if_neg (noWord _ rfl), if_neg (noWord _ rfl), if_neg (noWord _ rfl), read,
    Option.bind_eq_bind, Option.bind_some, Decimal.toBinary64_whole rfl, finite]

end Yaml.Scalar

end CrdCompiler
