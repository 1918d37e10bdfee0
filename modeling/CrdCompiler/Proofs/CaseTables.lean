import CrdCompiler.Text.Case

/-! # Case tables

What a case mapping does to all characters at once, read off its tables: which codes it maps and to
which. No code is both, so that the forms of characters are mapped no further and a text in lower
case stays as it is.
-/

namespace CrdCompiler.Text

def CaseRange.codes (range : CaseRange) : List Nat :=
  (List.range ((range.last - range.first) / range.stride + 1)).map fun step =>
    range.first + step * range.stride

theorem CaseRange.Covers.mem_codes {range : CaseRange} {code : Nat} (covers : range.Covers code) :
    code ∈ range.codes := by
  rcases covers with ⟨lower, upper, even⟩
  have near : code - range.first ≤ range.last - range.first := Nat.sub_le_sub_right upper _
  have steps := Nat.div_mul_cancel (Nat.dvd_of_mod_eq_zero even)
  refine List.mem_map.mpr ⟨(code - range.first) / range.stride, ?_, by omega⟩
  exact List.mem_range.mpr (Nat.lt_succ_of_le (Nat.div_le_div_right near))

def sources (expansions : List (Nat × List Nat)) (ranges : List CaseRange) : List Nat :=
  expansions.map (·.1) ++ ranges.flatMap (·.codes)

def images (expansions : List (Nat × List Nat)) (ranges : List CaseRange) : List Nat :=
  expansions.flatMap (·.2) ++ ranges.flatMap fun range => range.codes.map range.image

section Mapped

variable {expansions : List (Nat × List Nat)} {ranges : List CaseRange} {character other : Char}

theorem mapped_of_notMem (unmapped : character.toNat ∉ sources expansions ranges) :
    mapped expansions ranges character = [character] := by
  have notExpanded : expansions.find? (·.1 = character.toNat) = none := by
    rw [List.find?_eq_none]
    intro entry listed same
    have equal : entry.1 = character.toNat := by simpa using same
    exact unmapped (List.mem_append_left _ (List.mem_map.mpr ⟨entry, listed, equal⟩))
  have notCovered : ranges.find? (·.Covers character.toNat) = none := by
    rw [List.find?_eq_none]
    intro range listed covers
    have covered : range.Covers character.toNat := by simpa using covers
    exact unmapped (List.mem_append_right _ (List.mem_flatMap.mpr ⟨range, listed, covered.mem_codes⟩))
  rw [mapped, notExpanded, notCovered]

theorem toNat_ofNat_cases (code : Nat) :
    (Char.ofNat code).toNat = 0 ∨ (Char.ofNat code).toNat = code := by
  by_cases valid : code.isValidChar
  · rw [Char.ofNat, dif_pos valid]
    exact .inr rfl
  · rw [Char.ofNat, dif_neg valid]
    exact .inl rfl

theorem toNat_ofNat_mem {code : Nat} {codes : List Nat} (member : code ∈ codes) :
    (Char.ofNat code).toNat ∈ 0 :: codes := by
  rcases toNat_ofNat_cases code with first | same
  · rw [first]
    exact List.mem_cons_self
  · rw [same]
    exact List.mem_cons_of_mem 0 member

theorem mapped_cases (expansions : List (Nat × List Nat)) (ranges : List CaseRange)
    (character : Char) :
    mapped expansions ranges character = [character] ∨
      ∀ other ∈ mapped expansions ranges character,
        other.toNat ∈ 0 :: images expansions ranges := by
  cases expanded : expansions.find? (·.1 = character.toNat) with
  | some entry =>
      refine .inr ?_
      intro other member
      rw [mapped, expanded] at member
      rcases List.mem_map.mp member with ⟨code, inside, rfl⟩
      have listed := List.mem_of_find?_eq_some expanded
      exact toNat_ofNat_mem (List.mem_append_left _ (List.mem_flatMap.mpr ⟨entry, listed, inside⟩))
  | none =>
      cases covered : ranges.find? (·.Covers character.toNat) with
      | some range =>
          refine .inr ?_
          intro other member
          rw [mapped, expanded, covered] at member
          rw [List.mem_singleton.mp member]
          have listed := List.mem_of_find?_eq_some covered
          have covers : range.Covers character.toNat := by simpa using List.find?_some covered
          have image := List.mem_map_of_mem (f := range.image) covers.mem_codes
          exact toNat_ofNat_mem
            (List.mem_append_right _ (List.mem_flatMap.mpr ⟨range, listed, image⟩))
      | none =>
          refine .inl ?_
          rw [mapped, expanded, covered]

theorem eq_of_mem_mapped (member : other ∈ mapped expansions ranges character)
    (unreached : other.toNat ∉ 0 :: images expansions ranges) : other = character := by
  rcases mapped_cases expansions ranges character with own | reached
  · rw [own] at member
    exact List.mem_singleton.mp member
  · exact absurd (reached other member) unreached

theorem mapped_ne_nil (inhabited : ∀ entry ∈ expansions, entry.2 ≠ []) (character : Char) :
    mapped expansions ranges character ≠ [] := by
  cases expanded : expansions.find? (·.1 = character.toNat) with
  | some entry =>
      rw [mapped, expanded]
      exact mt List.map_eq_nil_iff.mp (inhabited entry (List.mem_of_find?_eq_some expanded))
  | none =>
      rw [mapped, expanded]
      cases ranges.find? (·.Covers character.toNat) <;> exact List.cons_ne_nil _ _

/-- What the tables map to they do not map. -/
def AreSettled (expansions : List (Nat × List Nat)) (ranges : List CaseRange) : Prop :=
  ∀ code ∈ 0 :: images expansions ranges, code ∉ sources expansions ranges

theorem AreSettled.mapped_of_mem (settled : AreSettled expansions ranges)
    (member : other ∈ mapped expansions ranges character) :
    mapped expansions ranges other = [other] := by
  rcases mapped_cases expansions ranges character with own | reached
  · rw [own] at member
    rw [List.mem_singleton.mp member, own]
  · exact mapped_of_notMem (settled _ (reached other member))

end Mapped

/-! ## The tables of both mappings -/

/-- The codes as the bits of one number, so that long lists are compared in one step. -/
def bitsOf : List Nat → Nat
  | [] => 0
  | code :: rest => 1 <<< code ||| bitsOf rest

theorem testBit_bitsOf {codes : List Nat} {code : Nat} (member : code ∈ codes) :
    (bitsOf codes).testBit code := by
  induction codes with
  | nil => cases member
  | cons first rest induction =>
      rw [bitsOf, Nat.testBit_or, Bool.or_eq_true]
      rcases List.mem_cons.mp member with rfl | member
      · exact .inl (by rw [Nat.one_shiftLeft, Nat.testBit_two_pow_self])
      · exact .inr (induction member)

theorem notMem_of_bitsOf {left right : List Nat} (apart : bitsOf left &&& bitsOf right = 0) :
    ∀ code ∈ left, code ∉ right := by
  intro code inLeft inRight
  have shared : (bitsOf left &&& bitsOf right).testBit code := by
    rw [Nat.testBit_and, testBit_bitsOf inLeft, testBit_bitsOf inRight, Bool.and_self]
  rw [apart, Nat.zero_testBit] at shared
  cases shared

theorem areSettled_lower : AreSettled lowerExpansions lowerRanges :=
  notMem_of_bitsOf (by decide +kernel)

theorem areSettled_upper : AreSettled upperExpansions upperRanges :=
  notMem_of_bitsOf (by decide +kernel)

theorem lowerCharacter_of_mem {character other : Char} (member : other ∈ lowerCharacter character) :
    lowerCharacter other = [other] :=
  areSettled_lower.mapped_of_mem member

theorem upperCharacter_of_mem {character other : Char} (member : other ∈ upperCharacter character) :
    upperCharacter other = [other] :=
  areSettled_upper.mapped_of_mem member

theorem upperCharacter_ne_nil (character : Char) : upperCharacter character ≠ [] :=
  mapped_ne_nil (by decide) character

/-! ## Lower-case texts -/

theorem lowerCharacter_sigma : lowerCharacter 'Σ' ≠ ['Σ'] := by decide +kernel

theorem lowerCharacter_of_mem_lowerFrom {before text : List Char} {character : Char}
    (member : character ∈ lowerFrom before text) : lowerCharacter character = [character] := by
  induction text generalizing before with
  | nil => cases member
  | cons first after induction =>
      rcases List.mem_append.mp member with here | further
      · split at here
        · split at here <;>
            · rw [List.mem_singleton.mp here]
              decide +kernel
        · exact lowerCharacter_of_mem here
      · exact induction further

theorem lowerFrom_of_forall {before text : List Char}
    (small : ∀ character ∈ text, lowerCharacter character = [character]) :
    lowerFrom before text = text := by
  induction text generalizing before with
  | nil => rfl
  | cons first after induction =>
      rcases List.forall_mem_cons.mp small with ⟨head, tail⟩
      have notSigma : first ≠ 'Σ' := by
        rintro rfl
        exact lowerCharacter_sigma head
      rw [lowerFrom, if_neg notSigma, head, induction tail, List.singleton_append]

theorem lowercase_eq_self_iff {text : String} :
    lowercase text = text ↔ ∀ character ∈ text.toList, lowerCharacter character = [character] := by
  constructor
  · intro same character member
    rw [← same, lowercase, String.toList_ofList] at member
    exact lowerCharacter_of_mem_lowerFrom member
  · intro small
    rw [lowercase, lowerFrom_of_forall small, String.ofList_toList]

theorem lowercase_lowercase (text : String) : lowercase (lowercase text) = lowercase text := by
  rw [lowercase_eq_self_iff]
  intro character member
  rw [lowercase, String.toList_ofList] at member
  exact lowerCharacter_of_mem_lowerFrom member

end CrdCompiler.Text
