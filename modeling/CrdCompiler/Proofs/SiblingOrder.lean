import CrdCompiler.Property
import CrdCompiler.Proofs.StableOrder
import Mathlib.Data.String.Basic

/-! # Order of siblings

Sorting keeps the siblings and brings them into ascending order of names; siblings that ascend stay
as they are. Siblings with distinct names have one such order, whatever order they come in.
-/

namespace CrdCompiler.Property

/-- No two siblings have one name. -/
def HaveDistinctNames (siblings : List Property) : Prop :=
  (siblings.map Property.name).Nodup

def Ascend (siblings : List Property) : Prop :=
  siblings.Pairwise fun left right => left.name < right.name

theorem sortSiblings_perm (siblings : List Property) : (sortSiblings siblings).Perm siblings :=
  siblings.mergeSort_perm _

@[simp] theorem mem_sortSiblings {property : Property} {siblings : List Property} :
    property ∈ sortSiblings siblings ↔ property ∈ siblings :=
  (sortSiblings_perm siblings).mem_iff

theorem sortSiblings_pairwise (siblings : List Property) :
    (sortSiblings siblings).Pairwise fun left right => left.name ≤ right.name :=
  mergeSort_key_pairwise siblings

theorem sortSiblings_eq_self_iff {siblings : List Property} :
    sortSiblings siblings = siblings ↔
      siblings.Pairwise fun left right => left.name ≤ right.name :=
  mergeSort_key_eq_self_iff

theorem sortSiblings_idempotent (siblings : List Property) :
    sortSiblings (sortSiblings siblings) = sortSiblings siblings :=
  sortSiblings_eq_self_iff.mpr (sortSiblings_pairwise siblings)

theorem sortSiblings_map {change : Property → Property}
    (keepsName : ∀ property, (change property).name = property.name) (siblings : List Property) :
    sortSiblings (siblings.map change) = (sortSiblings siblings).map change := by
  refine (List.map_mergeSort ?_).symm
  intro left _ right _
  rw [keepsName, keepsName]

theorem HaveDistinctNames.perm {siblings reordered : List Property}
    (distinct : HaveDistinctNames siblings) (order : siblings.Perm reordered) :
    HaveDistinctNames reordered :=
  (order.map Property.name).nodup distinct

theorem HaveDistinctNames.sortSiblings_ascend {siblings : List Property}
    (distinct : HaveDistinctNames siblings) : Ascend (sortSiblings siblings) :=
  mergeSort_key_ascends distinct

/-- Sorting erases the order that siblings with distinct names come in. -/
theorem HaveDistinctNames.sortSiblings_eq_of_perm {siblings reordered : List Property}
    (distinct : HaveDistinctNames siblings) (order : siblings.Perm reordered) :
    sortSiblings siblings = sortSiblings reordered :=
  mergeSort_key_eq_of_ascends ((sortSiblings_perm reordered).trans order.symm)
    (distinct.perm order).sortSiblings_ascend

end CrdCompiler.Property
