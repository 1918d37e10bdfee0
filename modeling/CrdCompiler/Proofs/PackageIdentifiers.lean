import CrdCompiler.Document
import CrdCompiler.Proofs.SelfDelimiting
import CrdCompiler.Proofs.Uncased

/-! # Package identifiers told apart

In an identifier the points of the group look like the underscores that join its parts. Kind and
version are found from the end, where no other underscores are, and what is left is the group.
-/

namespace CrdCompiler.Document

def undotted (text : List Char) : List Char :=
  text.map fun character => if character = '.' then '_' else character

def dotted (text : List Char) : List Char :=
  text.map fun character => if character = '_' then '.' else character

theorem dotted_undotted {text : List Char} (free : '_' ∉ text) : dotted (undotted text) = text := by
  have back : ∀ character ∈ text,
      ((fun character => if character = '_' then '.' else character) ∘
        fun character => if character = '.' then '_' else character) character = id character := by
    intro character member
    have different : character ≠ '_' := fun same => free (same ▸ member)
    by_cases point : character = '.'
    · rw [Function.comp_apply, if_pos point, if_pos rfl, id, point]
    · rw [Function.comp_apply, if_neg point, if_neg different, id]
  rw [dotted, undotted, List.map_map, List.map_congr_left back, List.map_id]

theorem undotted_inj {left right : List Char} (leftFree : '_' ∉ left) (rightFree : '_' ∉ right) :
    undotted left = undotted right ↔ left = right := by
  constructor
  · intro same
    rw [← dotted_undotted leftFree, same, dotted_undotted rightFree]
  · exact congrArg undotted

theorem packageIdentifierFor_toList (group kind version : String) :
    (packageIdentifierFor group kind version).toList =
      (undotted group.toList ++ '_' :: (Text.lowercase kind).toList) ++
        '_' :: (Text.lowercase version).toList := by
  simp [packageIdentifierFor, undotted]

theorem notMem_lowercase {text : String} (free : '_' ∉ text.toList) :
    '_' ∉ (Text.lowercase text).toList := by
  have uncased : Text.IsUncased '_' := by decide +kernel
  exact mt uncased.mem_lowercase_iff.mp free

section Parts

variable {group kind version group' kind' version' : String}

/-- Whatever underscores are in the groups, identifiers agree in each of their parts. -/
theorem parts_of_packageIdentifierFor_eq (kindFree : '_' ∉ kind.toList)
    (versionFree : '_' ∉ version.toList) (kindFree' : '_' ∉ kind'.toList)
    (versionFree' : '_' ∉ version'.toList)
    (same : packageIdentifierFor group kind version = packageIdentifierFor group' kind' version') :
    undotted group.toList = undotted group'.toList ∧
      Text.lowercase kind = Text.lowercase kind' ∧
      Text.lowercase version = Text.lowercase version' := by
  have characters := congrArg String.toList same
  rw [packageIdentifierFor_toList, packageIdentifierFor_toList] at characters
  rcases eq_of_last_mark (notMem_lowercase versionFree) (notMem_lowercase versionFree') characters
    with ⟨before, sameVersion⟩
  rcases eq_of_last_mark (notMem_lowercase kindFree) (notMem_lowercase kindFree') before
    with ⟨sameGroup, sameKind⟩
  exact ⟨sameGroup, String.toList_inj.mp sameKind, String.toList_inj.mp sameVersion⟩

/-- Without underscores in their parts, two identifiers are the same only for the same group and for
kinds and versions that are the same in lower case. -/
theorem packageIdentifierFor_eq_iff
    (free : ∀ part ∈ [group, kind, version, group', kind', version'], '_' ∉ part.toList) :
    packageIdentifierFor group kind version = packageIdentifierFor group' kind' version' ↔
      group = group' ∧ Text.lowercase kind = Text.lowercase kind' ∧
        Text.lowercase version = Text.lowercase version' := by
  simp only [List.forall_mem_cons, List.not_mem_nil, false_implies, implies_true, and_true] at free
  rcases free with ⟨groupFree, kindFree, versionFree, groupFree', kindFree', versionFree'⟩
  constructor
  · intro same
    rcases parts_of_packageIdentifierFor_eq kindFree versionFree kindFree' versionFree' same
      with ⟨sameGroup, parts⟩
    exact ⟨String.toList_inj.mp ((undotted_inj groupFree groupFree').mp sameGroup), parts⟩
  · rintro ⟨rfl, sameKind, sameVersion⟩
    rw [packageIdentifierFor, packageIdentifierFor, sameKind, sameVersion]

end Parts

/-- Points move between a group and a kind without two identifiers becoming the same; a sigma at the
end of a word is the same in lower case as one that is written so. -/
theorem packageIdentifierFor_points :
    packageIdentifierFor "a.b" "C" "v1" ≠ packageIdentifierFor "a" "b.C" "v1" ∧
      packageIdentifierFor "a.b" "ΟΔΟΣ" "V1" = packageIdentifierFor "a.b" "οδος" "v1" := by
  constructor
  · intro same
    rw [packageIdentifierFor_eq_iff (by decide)] at same
    exact absurd same.1 (by decide)
  · rw [packageIdentifierFor_eq_iff (by decide)]
    decide +kernel

end CrdCompiler.Document
