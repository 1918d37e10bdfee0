import CrdCompiler.Proofs.Uncased
import CrdCompiler.Proofs.WordBoundaries

/-! # Attribute names of attribute names

An attribute name has no boundary left, no separator and nothing that lower-casing would change. The
names that are their own attribute names are exactly these.
-/

namespace CrdCompiler.Naming

theorem inserting_unmarked {rule : Option Char → Char → Option Char → Bool} {before : Option Char}
    {text : List Char}
    (unmarked : ∀ character ∈ text, ∀ before after, ¬rule before character after) :
    inserting rule before text = text := by
  induction text generalizing before with
  | nil => rfl
  | cons character rest induction =>
      rcases List.forall_mem_cons.mp unmarked with ⟨head, tail⟩
      rw [inserting_plain (head before rest.head?), induction tail]

theorem markBoundaries_of_no_capital {text : List Char}
    (small : ∀ character ∈ text, ¬isCapital character) : markBoundaries text = text := by
  rw [markBoundaries_inserting]
  apply inserting_unmarked
  intro character member before after marked
  exact small character member (Bool.and_eq_true_iff.mp marked).1

theorem lowerCharacter_capital {character : Char} (large : isCapital character) :
    Text.lowerCharacter character ≠ [character] := by
  have capitals : ∀ code ∈ List.range' 65 26,
      Text.lowerCharacter (Char.ofNat code) ≠ [Char.ofNat code] := by decide +kernel
  have bounds : 65 ≤ character.toNat ∧ character.toNat ≤ 90 := by
    simpa [isCapital, Char.le_def, UInt32.le_iff_toNat_le] using large
  have moved := capitals character.toNat (List.mem_range'_1.mpr ⟨bounds.1, by omega⟩)
  rwa [Char.ofNat_toNat] at moved

theorem isSeparator_iff {character : Char} :
    isSeparator character ↔ character ∈ ['-', '.', '/', ':'] := by
  simp [isSeparator, or_assoc]

theorem isUncased_of_isSeparator {character : Char} (separator : isSeparator character) :
    Text.IsUncased character := by
  simp only [isSeparator_iff, List.mem_cons, List.not_mem_nil, or_false] at separator
  rcases separator with rfl | rfl | rfl | rfl <;> decide +kernel

def unseparated (text : List Char) : List Char :=
  text.map fun character => if isSeparator character then '_' else character

theorem attributeName_eq (name : String) :
    attributeName name =
      Text.lowercase (String.ofList (unseparated (markBoundaries name.toList))) := rfl

theorem not_isSeparator_of_mem_unseparated {text : List Char} {character : Char}
    (member : character ∈ unseparated text) : ¬isSeparator character := by
  rcases List.mem_map.mp member with ⟨other, _, rfl⟩
  split
  · decide
  · assumption

theorem unseparated_of_no_separator {text : List Char}
    (without : ∀ character ∈ text, ¬isSeparator character) : unseparated text = text := by
  have kept : ∀ character ∈ text,
      (if isSeparator character then '_' else character) = id character :=
    fun character member => if_neg (without character member)
  rw [unseparated, List.map_congr_left kept, List.map_id]

theorem lowercase_attributeName (name : String) :
    Text.lowercase (attributeName name) = attributeName name := by
  rw [attributeName_eq, Text.lowercase_lowercase]

theorem not_isSeparator_of_mem_attributeName {name : String} {character : Char}
    (member : character ∈ (attributeName name).toList) : ¬isSeparator character := by
  intro separator
  rw [attributeName_eq, (isUncased_of_isSeparator separator).mem_lowercase_iff,
    String.toList_ofList] at member
  exact not_isSeparator_of_mem_unseparated member separator

theorem attributeName_eq_self_iff {name : String} :
    attributeName name = name ↔
      Text.lowercase name = name ∧ ∀ character ∈ name.toList, ¬isSeparator character := by
  constructor
  · intro same
    constructor
    · rw [← same, lowercase_attributeName]
    · intro character member
      rw [← same] at member
      exact not_isSeparator_of_mem_attributeName member
  · rintro ⟨small, without⟩
    have lower := Text.lowercase_eq_self_iff.mp small
    have noCapital : ∀ character ∈ name.toList, ¬isCapital character :=
      fun character member large => lowerCharacter_capital large (lower character member)
    rw [attributeName_eq, markBoundaries_of_no_capital noCapital,
      unseparated_of_no_separator without, String.ofList_toList, small]

/-- The attribute name of an attribute name is that name, and no capital and no separator is in it.
Lower-casing and the lack of separators are all that a name needs to be its own attribute name. -/
theorem attributeName_stays (name : String) :
    attributeName (attributeName name) = attributeName name ∧
    (∀ character ∈ (attributeName name).toList,
      ¬('A' ≤ character ∧ character ≤ 'Z') ∧ character ∉ ['-', '.', '/', ':']) ∧
    (attributeName name = name ↔ Text.lowercase name = name ∧
      ∀ character ∈ name.toList, character ∉ ['-', '.', '/', ':']) := by
  refine ⟨?_, ?_, ?_⟩
  · rw [attributeName_eq_self_iff]
    exact ⟨lowercase_attributeName name, fun _ => not_isSeparator_of_mem_attributeName⟩
  · intro character member
    constructor
    · intro large
      have lower := Text.lowercase_eq_self_iff.mp (lowercase_attributeName name) character member
      exact lowerCharacter_capital (by simpa [isCapital] using large) lower
    · exact mt isSeparator_iff.mpr (not_isSeparator_of_mem_attributeName member)
  · simp only [attributeName_eq_self_iff, isSeparator_iff]

end CrdCompiler.Naming
