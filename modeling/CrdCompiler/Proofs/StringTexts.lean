import CrdCompiler.Json.Writer
import CrdCompiler.Proofs.NumberTexts
import Mathlib.Tactic.IntervalCases

/-! # Texts between quotes

A text that was written between quotes is read as itself: a quote inside is escaped, and every
character that is escaped is told by its escape.
-/

namespace CrdCompiler.Json

def escape (character : Char) : List Char :=
  match character with
  | '"' => ['\\', '"']
  | '\\' => ['\\', '\\']
  | '\x08' => ['\\', 'b']
  | '\t' => ['\\', 't']
  | '\n' => ['\\', 'n']
  | '\x0c' => ['\\', 'f']
  | '\r' => ['\\', 'r']
  | _ =>
    if character.toNat < 0x20 then
      let digits := Nat.toDigits 16 character.toNat
      '\\' :: 'u' :: (List.replicate (4 - digits.length) '0' ++ digits)
    else [character]

theorem escapedCharacter_toList (character : Char) :
    (escapedCharacter character).toList = escape character := by
  unfold escapedCharacter escape
  split
  case h_8 =>
    by_cases control : character.toNat < 0x20
    · simp [control, Text.hexadecimal, toList_pushn]
    · simp [control]
  all_goals rfl

theorem stringText_toList (text : String) :
    (stringText text).toList = '"' :: (text.toList.flatMap escape ++ ['"']) := by
  simp [stringText, String.toList_join, List.flatMap_map, escapedCharacter_toList]

theorem escape?_control {number : Nat} (control : number < 0x20) (rest : List Char) :
    escape? ('u' :: (List.replicate (4 - (Nat.toDigits 16 number).length) '0' ++
      Nat.toDigits 16 number) ++ rest) = some (Char.ofNat number, rest) := by
  interval_cases number <;> rfl

/-- A character is written as itself, or it is read off what comes behind a backslash. -/
theorem escape_told (character : Char) :
    (escape character = [character] ∧ character ≠ '"' ∧ character ≠ '\\' ∧
      ¬ character.toNat < 0x20) ∨
    ∃ tail, escape character = '\\' :: tail ∧
      ∀ rest, escape? (tail ++ rest) = some (character, rest) := by
  unfold escape
  split
  case h_8 quote backslash _ _ _ _ _ =>
    by_cases control : character.toNat < 0x20
    · refine .inr ⟨_, if_pos control, fun rest => ?_⟩
      have told := escape?_control control rest
      rwa [Char.ofNat_toNat] at told
    · exact .inl ⟨if_neg control, quote, backslash, control⟩
  all_goals exact .inr ⟨_, rfl, fun _ => rfl⟩

theorem stringRest_append (characters : List Char) {fuel : Nat} (enough : characters.length ≤ fuel)
    (read rest : List Char) :
    stringRest fuel read (characters.flatMap escape ++ '"' :: rest) =
      some (String.ofList (read.reverse ++ characters), rest) := by
  induction characters generalizing fuel read with
  | nil =>
      rw [List.append_nil]
      cases fuel <;> rfl
  | cons character others induction =>
      cases fuel with
      | zero => cases enough
      | succ fuel =>
          have further := induction (Nat.le_of_succ_le_succ enough) (character :: read)
          rw [List.reverse_cons, List.append_assoc, List.singleton_append] at further
          rw [List.flatMap_cons, List.append_assoc, ← further]
          rcases escape_told character with ⟨plain, quote, backslash, control⟩ | ⟨tail, told, back⟩
          · rw [plain, List.singleton_append]
            simp [stringRest, control]
          · rw [told, List.cons_append]
            simp [stringRest, back]

theorem length_le_flatMap_escape (characters : List Char) :
    characters.length ≤ (characters.flatMap escape).length := by
  induction characters with
  | nil => exact Nat.le_refl 0
  | cons character rest induction =>
      have written : 0 < (escape character).length := by
        rcases escape_told character with ⟨plain, _⟩ | ⟨tail, told, _⟩
        · rw [plain]
          exact Nat.one_pos
        · rw [told]
          exact Nat.succ_pos _
      rw [List.flatMap_cons, List.length_append, List.length_cons]
      omega

theorem readString_append (text : String) (rest : List Char) :
    readString ((stringText text).toList ++ rest) = some (text, rest) := by
  have enough : text.toList.length ≤ (text.toList.flatMap escape ++ '"' :: rest).length := by
    rw [List.length_append]
    exact (length_le_flatMap_escape _).trans (Nat.le_add_right _ _)
  rw [stringText_toList, List.cons_append, List.append_assoc, List.singleton_append, readString,
    stringRest_append _ enough, List.reverse_nil, List.nil_append, String.ofList_toList]

end CrdCompiler.Json
