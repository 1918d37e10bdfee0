import CrdCompiler.Proofs.CaseTables

/-! # Characters without case

Lower-casing neither brings in nor takes away a character that is no letter with a case: nothing in
the case tables leads to it.
-/

namespace CrdCompiler.Text

/-- The character is its own lower-case form and stands in that of no other. -/
structure IsUncased (character : Char) : Prop where
  own : lowerCharacter character = [character]
  unreached : character.toNat ∉ 0 :: images lowerExpansions lowerRanges
  notSigma : character ∉ ['Σ', 'σ', 'ς']

instance (character : Char) : Decidable (IsUncased character) :=
  decidable_of_iff
    (lowerCharacter character = [character] ∧
      character.toNat ∉ 0 :: images lowerExpansions lowerRanges ∧ character ∉ ['Σ', 'σ', 'ς'])
    ⟨fun ⟨own, unreached, notSigma⟩ => ⟨own, unreached, notSigma⟩,
      fun uncased => ⟨uncased.own, uncased.unreached, uncased.notSigma⟩⟩

theorem IsUncased.mem_lowerCharacter_iff {character : Char} (uncased : IsUncased character)
    {other : Char} : character ∈ lowerCharacter other ↔ other = character := by
  constructor
  · intro member
    exact (eq_of_mem_mapped member uncased.unreached).symm
  · intro equal
    rw [equal, uncased.own]
    exact List.mem_singleton_self character

theorem IsUncased.mem_lowerFrom_iff {character : Char} (uncased : IsUncased character)
    {before text : List Char} : character ∈ lowerFrom before text ↔ character ∈ text := by
  induction text generalizing before with
  | nil => rfl
  | cons first after induction =>
      rcases not_or.mp (mt List.mem_cons.mpr uncased.notSigma) with ⟨capital, small⟩
      rw [lowerFrom, List.mem_append, induction, List.mem_cons]
      by_cases sigma : first = 'Σ'
      · subst first
        rw [if_pos rfl]
        split <;> simp_all
      · rw [if_neg sigma, uncased.mem_lowerCharacter_iff, eq_comm]

theorem IsUncased.mem_lowercase_iff {character : Char} (uncased : IsUncased character)
    {text : String} : character ∈ (lowercase text).toList ↔ character ∈ text.toList := by
  rw [lowercase, String.toList_ofList, uncased.mem_lowerFrom_iff]

end CrdCompiler.Text
