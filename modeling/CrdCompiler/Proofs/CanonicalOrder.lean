import CrdCompiler.Proofs.Assembling
import CrdCompiler.Proofs.FieldTree

/-! # Canonical order

The sorter and the checker of siblings. The list that the sorter gives is the only stable sort of
the siblings by the bytes of their names, and the checker accepts a tree exactly when the sorter,
applied at every level, leaves it as it is. It accepts the trees of every compiled document.
-/

namespace CrdCompiler

namespace Property

/-! ## The sorter -/

/-- The siblings in ascending byte order of their names, those of one name in the order in which
they come. -/
structure StablySorted (siblings sorted : List Property) : Prop where
  perm : sorted.Perm siblings
  ascends : sorted.Pairwise fun left right => Text.bytes left.name ≤ Text.bytes right.name
  stable : ∀ name, (sorted.filter fun property => property.name = name) =
    siblings.filter fun property => property.name = name

theorem filter_name_sortSiblings (siblings : List Property) (name : String) :
    ((sortSiblings siblings).filter fun property => property.name = name) =
      siblings.filter fun property => property.name = name := by
  -- Siblings of one name ascend in whatever order they come, so they sort to themselves.
  have ascends : (siblings.filter fun property => property.name = name).Pairwise
      fun left right => left.name ≤ right.name := by
    apply List.pairwise_of_forall_mem_list
    intro left leftMember right rightMember
    have leftNamed := of_decide_eq_true (List.mem_filter.mp leftMember).2
    have rightNamed := of_decide_eq_true (List.mem_filter.mp rightMember).2
    exact (leftNamed.trans rightNamed.symm).le
  calc ((sortSiblings siblings).filter fun property => property.name = name)
      = sortSiblings (siblings.filter fun property => property.name = name) :=
        ((isTotalPreorder_of_key Property.name).mergeSort_filter _ siblings).symm
    _ = siblings.filter fun property => property.name = name :=
        sortSiblings_eq_self_iff.mpr ascends

theorem stablySorted_sortSiblings (siblings : List Property) :
    StablySorted siblings (sortSiblings siblings) where
  perm := sortSiblings_perm siblings
  ascends := (sortSiblings_pairwise siblings).imp Text.bytes_le_bytes.mpr
  stable := filter_name_sortSiblings siblings

theorem StablySorted.eq_sortSiblings {siblings sorted : List Property}
    (holds : StablySorted siblings sorted) : sorted = sortSiblings siblings := by
  apply (isTotalPreorder_of_key Property.name).eq_of_filter_ties
  · exact holds.ascends.imp fun less => decide_eq_true (Text.bytes_le_bytes.mp less)
  · exact (sortSiblings_pairwise siblings).imp decide_eq_true
  · intro property
    rw [IsTotalPreorder.ties_of_key, holds.stable, filter_name_sortSiblings]

/-! ## Every level -/

mutual

/-- The property with the fields below it sorted at every level. -/
def sortBelow : Property → Property
  | property@{ children, .. } => { property with children := sortSiblings (sortEachBelow children) }

def sortEachBelow : List Property → List Property
  | [] => []
  | property :: rest => property.sortBelow :: sortEachBelow rest

end

def sortLevels (siblings : List Property) : List Property :=
  sortSiblings (sortEachBelow siblings)

theorem sortBelow_eq (property : Property) :
    property.sortBelow = { property with children := sortLevels property.children } := by
  cases property
  rw [sortBelow, sortLevels]

theorem sortBelow_name (property : Property) : property.sortBelow.name = property.name := by
  rw [sortBelow_eq]

theorem sortEachBelow_eq_map (siblings : List Property) :
    sortEachBelow siblings = siblings.map sortBelow := by
  induction siblings with
  | nil => rfl
  | cons property rest induction => rw [sortEachBelow, induction, List.map_cons]

theorem sortLevels_eq (siblings : List Property) :
    sortLevels siblings = sortEachBelow (sortSiblings siblings) := by
  rw [sortLevels, sortEachBelow_eq_map, sortEachBelow_eq_map, sortSiblings_map sortBelow_name]

theorem sortLevels_eq_self_iff {siblings : List Property} :
    sortLevels siblings = siblings ↔
      sortSiblings siblings = siblings ∧ sortEachBelow siblings = siblings := by
  constructor
  · intro unchanged
    -- The tree is what sorting some siblings gives, whatever happens to it below.
    have sorted : sortSiblings siblings = siblings := by
      calc sortSiblings siblings
          = sortSiblings (sortLevels siblings) := by rw [unchanged]
        _ = sortLevels siblings := sortSiblings_idempotent _
        _ = siblings := unchanged
    rw [sortLevels_eq, sorted] at unchanged
    exact ⟨sorted, unchanged⟩
  · intro holds
    rcases holds with ⟨sorted, below⟩
    rw [sortLevels_eq, sorted, below]

theorem sortLevels_sortLevels_of_below {siblings : List Property}
    (below : sortEachBelow (sortEachBelow siblings) = sortEachBelow siblings) :
    sortLevels (sortLevels siblings) = sortLevels siblings := by
  calc sortLevels (sortLevels siblings)
      = sortEachBelow (sortSiblings (sortLevels siblings)) := sortLevels_eq _
    _ = sortEachBelow (sortLevels siblings) :=
        congrArg sortEachBelow (sortSiblings_idempotent (sortEachBelow siblings))
    _ = sortLevels (sortEachBelow siblings) := (sortLevels_eq _).symm
    _ = sortLevels siblings := congrArg sortSiblings below

mutual

theorem sortBelow_idempotent (property : Property) :
    property.sortBelow.sortBelow = property.sortBelow := by
  match property with
  | { children, .. } =>
      have fields := sortLevels_sortLevels_of_below (sortEachBelow_idempotent children)
      simp only [sortBelow_eq, fields]

theorem sortEachBelow_idempotent (siblings : List Property) :
    sortEachBelow (sortEachBelow siblings) = sortEachBelow siblings := by
  cases siblings with
  | nil => rfl
  | cons property rest =>
      rw [sortEachBelow, sortEachBelow, sortBelow_idempotent property,
        sortEachBelow_idempotent rest]

end

theorem sortLevels_idempotent (siblings : List Property) :
    sortLevels (sortLevels siblings) = sortLevels siblings :=
  sortLevels_sortLevels_of_below (sortEachBelow_idempotent siblings)

/-! ## The checker -/

theorem isAscending_iff {siblings : List Property} :
    isAscending siblings = true ↔ sortSiblings siblings = siblings := by
  have steps : isAscending siblings = true ↔
      siblings.IsChain fun left right => left.name ≤ right.name := by
    induction siblings with
    | nil => simp [isAscending]
    | cons left rest induction =>
        cases rest with
        | nil => simp [isAscending]
        | cons right rest =>
            rw [isAscending, Bool.and_eq_true, decide_eq_true_iff, induction,
              List.isChain_cons_cons]
  have transitive : IsTrans Property fun left right => left.name ≤ right.name :=
    ⟨fun _ _ _ => le_trans⟩
  rw [steps, List.isChain_iff_pairwise, sortSiblings_eq_self_iff]

theorem isAscending_sortSiblings (siblings : List Property) :
    isAscending (sortSiblings siblings) = true :=
  isAscending_iff.mpr (sortSiblings_idempotent siblings)

mutual

theorem hasCanonicalChildren_iff (property : Property) :
    property.hasCanonicalChildren = true ↔ property.sortBelow = property := by
  match property with
  | { children, .. } =>
      have fields : (isAscending children && allHaveCanonicalChildren children) = true ↔
          sortLevels children = children := by
        rw [Bool.and_eq_true, isAscending_iff, allHaveCanonicalChildren_iff children,
          sortLevels_eq_self_iff]
      rw [hasCanonicalChildren, fields, sortBelow_eq]
      simp

theorem allHaveCanonicalChildren_iff (siblings : List Property) :
    allHaveCanonicalChildren siblings = true ↔ sortEachBelow siblings = siblings := by
  cases siblings with
  | nil => simp [allHaveCanonicalChildren, sortEachBelow]
  | cons property rest =>
      rw [allHaveCanonicalChildren, Bool.and_eq_true, hasCanonicalChildren_iff property,
        allHaveCanonicalChildren_iff rest, sortEachBelow, List.cons.injEq]

end

theorem isCanonical_iff {siblings : List Property} :
    isCanonical siblings = true ↔ sortLevels siblings = siblings := by
  rw [isCanonical, Bool.and_eq_true, isAscending_iff, allHaveCanonicalChildren_iff,
    sortLevels_eq_self_iff]

/-- The sorter gives the only stable sort of siblings by the bytes of their names, and what is
sorted stays. The checker accepts exactly the trees that sorting every level does not change, so it
accepts whatever comes of that. -/
theorem sorter_agrees_with_checker (siblings : List Property) :
    (∀ sorted, StablySorted siblings sorted ↔ sorted = sortSiblings siblings) ∧
      sortSiblings (sortSiblings siblings) = sortSiblings siblings ∧
      (isCanonical siblings = true ↔ sortLevels siblings = siblings) ∧
      isCanonical (sortLevels siblings) = true := by
  refine ⟨?_, sortSiblings_idempotent siblings, isCanonical_iff, ?_⟩
  · intro sorted
    constructor
    · exact StablySorted.eq_sortSiblings
    · rintro rfl
      exact stablySorted_sortSiblings siblings
  · exact isCanonical_iff.mpr (sortLevels_idempotent siblings)

end Property

/-! ## Compiled documents -/

namespace Resolver

open Property

variable {resolver : Resolver}

theorem makesOnly_ascending (resolver : Resolver) :
    resolver.MakesOnly fun _ property => isAscending property.children = true := by
  intro required path depth name child property resolved
  have origin := fieldsFrom_of_fieldOf resolved
  generalize property.children = children at origin ⊢
  cases origin with
  | nowhere _ => rfl
  | fieldless _ _ => rfl
  | record _ fields =>
      rcases recordOf_eq_ok.mp fields with ⟨_, unsorted, _, rfl⟩
      exact isAscending_sortSiblings unsorted

theorem allHaveCanonicalChildren_of_eachField {owner : SchemaNode} {siblings : List Property}
    (each : owner.EachField (fun _ property => isAscending property.children = true) siblings) :
    allHaveCanonicalChildren siblings = true := by
  induction each with
  | nil => rfl
  | @cons owner child property rest _ ascends leaf _ _ nested others =>
      have below : allHaveCanonicalChildren property.children = true := by
        cases owned : child.fieldOwner? property.type with
        | none => rw [leaf owned, allHaveCanonicalChildren]
        | some inner => exact nested inner owned
      cases property
      rw [allHaveCanonicalChildren, hasCanonicalChildren, ascends, below, others]
      rfl

theorem isCanonical_of_resolved {node : SchemaNode} {path : SchemaPath}
    {properties : List Property}
    (resolved : resolver.resolveProperties node path = .ok properties) :
    isCanonical properties = true := by
  have each := eachField_of_resolveProperties resolver.makesOnly_ascending resolved
  rw [resolveProperties_eq] at resolved
  rcases recordOf_eq_ok.mp resolved with ⟨_, unsorted, _, rfl⟩
  rw [isCanonical, Bool.and_eq_true]
  exact ⟨isAscending_sortSiblings unsorted, allHaveCanonicalChildren_of_eachField each⟩

end Resolver

/-- Both trees of a compiled document are in canonical order. -/
theorem Assembly.isCanonical_of_assembled {definition : CustomResourceDefinition} {maxDepth : Nat}
    {document : Document} (assembled : assemble definition maxDepth = .ok document) :
    Property.isCanonical document.specProperties = true ∧
      Property.isCanonical document.statusProperties = true := by
  rcases assemble_eq_ok.mp assembled with ⟨version, _, _, specProperties, statusProperties, first,
    split, specResolved, statusResolved, rfl⟩
  exact ⟨Resolver.isCanonical_of_resolved specResolved,
    Resolver.isCanonical_of_resolved statusResolved⟩

end CrdCompiler
