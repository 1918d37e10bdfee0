import CrdCompiler.Proofs.NamedMembers
import CrdCompiler.Proofs.Resolution
import CrdCompiler.Proofs.SiblingOrder

/-! # Keys and names

A properties map has one schema under each key. The fields of a record are named after its keys, so
that each of them comes from one schema.
-/

namespace CrdCompiler

namespace SchemaNode

/-- Every properties map of the node and below it has one schema under each key. -/
inductive HasDistinctKeys : SchemaNode → Prop where
  | intro {node : SchemaNode} (keys : (node.properties.map Prod.fst).Nodup)
      (properties : ∀ name child, (name, child) ∈ node.properties → child.HasDistinctKeys)
      (values : ∀ values, node.additionalProperties = .schema values → values.HasDistinctKeys)
      (items : ∀ elements, node.items = some elements → elements.HasDistinctKeys) :
      node.HasDistinctKeys

namespace HasDistinctKeys

variable {node : SchemaNode}

theorem keys (distinct : node.HasDistinctKeys) : (node.properties.map Prod.fst).Nodup := by
  cases distinct with
  | intro keys _ _ _ => exact keys

theorem property (distinct : node.HasDistinctKeys) {name : String} {child : SchemaNode}
    (member : (name, child) ∈ node.properties) : child.HasDistinctKeys := by
  cases distinct with
  | intro _ properties _ _ => exact properties name child member

theorem value (distinct : node.HasDistinctKeys) {values : SchemaNode}
    (valued : node.additionalProperties = .schema values) : values.HasDistinctKeys := by
  cases distinct with
  | intro _ _ values _ => exact values _ valued

theorem item (distinct : node.HasDistinctKeys) {elements : SchemaNode}
    (itemized : node.items = some elements) : elements.HasDistinctKeys := by
  cases distinct with
  | intro _ _ _ items => exact items _ itemized

end HasDistinctKeys

mutual

def hasDistinctKeys : SchemaNode → Bool
  | { properties, additionalProperties, items, .. } =>
    decide (properties.map Prod.fst).Nodup && allHaveDistinctKeys properties &&
      (match additionalProperties with
      | .schema values => values.hasDistinctKeys
      | _ => true) &&
      match items with
      | some elements => elements.hasDistinctKeys
      | none => true

def allHaveDistinctKeys : List (String × SchemaNode) → Bool
  | [] => true
  | (_, node) :: rest => node.hasDistinctKeys && allHaveDistinctKeys rest

end

theorem allHaveDistinctKeys_iff {entries : List (String × SchemaNode)} :
    allHaveDistinctKeys entries ↔
      ∀ name child, (name, child) ∈ entries → child.hasDistinctKeys := by
  induction entries with
  | nil => simp [allHaveDistinctKeys]
  | cons entry rest induction =>
      rw [allHaveDistinctKeys, Bool.and_eq_true, induction]
      constructor
      · intro holds name child member
        rcases holds with ⟨first, others⟩
        rcases List.mem_cons.mp member with equal | member
        · cases equal
          exact first
        · exact others name child member
      · intro all
        exact ⟨all _ _ List.mem_cons_self,
          fun name child member => all name child (List.mem_cons_of_mem _ member)⟩

theorem hasDistinctKeys_unfold (node : SchemaNode) :
    node.hasDistinctKeys ↔ (node.properties.map Prod.fst).Nodup ∧
      (∀ name child, (name, child) ∈ node.properties → child.hasDistinctKeys) ∧
      (∀ values, node.additionalProperties = .schema values → values.hasDistinctKeys) ∧
      ∀ elements, node.items = some elements → elements.hasDistinctKeys := by
  rw [hasDistinctKeys.eq_def]
  cases node with
  | mk type properties additionalProperties items =>
      cases additionalProperties <;> cases items <;> simp [allHaveDistinctKeys_iff, and_assoc]

theorem hasDistinctKeys_iff (node : SchemaNode) : node.hasDistinctKeys ↔ node.HasDistinctKeys := by
  rw [hasDistinctKeys_unfold]
  constructor
  · intro holds
    rcases holds with ⟨keys, properties, values, items⟩
    refine .intro keys ?_ ?_ ?_
    · intro name child member
      exact (hasDistinctKeys_iff child).mp (properties name child member)
    · intro below valued
      exact (hasDistinctKeys_iff below).mp (values below valued)
    · intro elements itemized
      exact (hasDistinctKeys_iff elements).mp (items elements itemized)
  · intro distinct
    refine ⟨distinct.keys, ?_, ?_, ?_⟩
    · intro name child member
      exact (hasDistinctKeys_iff child).mpr (distinct.property member)
    · intro below valued
      exact (hasDistinctKeys_iff below).mpr (distinct.value valued)
    · intro elements itemized
      exact (hasDistinctKeys_iff elements).mpr (distinct.item itemized)
termination_by sizeOf node
decreasing_by
  · exact sizeOf_property_lt member
  · exact sizeOf_values_lt valued
  · exact sizeOf_elements_lt itemized
  · exact sizeOf_property_lt member
  · exact sizeOf_values_lt valued
  · exact sizeOf_elements_lt itemized

instance : DecidablePred HasDistinctKeys := fun node =>
  decidable_of_iff (node.hasDistinctKeys = true) (hasDistinctKeys_iff node)

theorem HasDistinctKeys.property? {node child : SchemaNode} {name : String}
    (distinct : node.HasDistinctKeys) (found : node.property? name = some child) :
    child.HasDistinctKeys :=
  distinct.property ((lookup_eq_some_iff_mem distinct.keys).mp found)

theorem HasDistinctKeys.withoutProperties {node : SchemaNode} (distinct : node.HasDistinctKeys)
    (names : List String) : (node.withoutProperties names).HasDistinctKeys := by
  have kept : (node.withoutProperties names).properties.Sublist node.properties :=
    List.filter_sublist
  refine .intro ((kept.map Prod.fst).nodup distinct.keys) ?_ ?_ ?_
  · intro name child member
    exact distinct.property (kept.subset member)
  · intro values valued
    exact distinct.value valued
  · intro elements itemized
    exact distinct.item itemized

end SchemaNode

namespace Resolver

variable {resolver : Resolver} {required : List String} {path : SchemaPath} {depth : Nat}

theorem fieldOf_name {entry : String × SchemaNode} {property : Property}
    (resolved : resolver.fieldOf required path depth entry = .ok property) :
    property.name = entry.1 := by
  rcases fieldOf_eq_ok.mp resolved with ⟨type, children, metadata, _, _, rfl⟩
  rfl

theorem fields_names {entries : List (String × SchemaNode)} {fields : List Property}
    (resolved : entries.mapM (resolver.fieldOf required path depth) = .ok fields) :
    fields.map Property.name = entries.map Prod.fst := by
  have aligned := Outcome.mapM_eq_ok.mp resolved
  clear resolved
  induction aligned with
  | nil => rfl
  | cons first remaining induction =>
      rw [List.map_cons, List.map_cons, fieldOf_name first, induction]

theorem fields_distinct {entries : List (String × SchemaNode)} {fields : List Property}
    (keys : (entries.map Prod.fst).Nodup)
    (resolved : entries.mapM (resolver.fieldOf required path depth) = .ok fields) :
    Property.HaveDistinctNames fields := by
  rw [Property.HaveDistinctNames, fields_names resolved]
  exact keys

theorem exists_entry_of_mem {entries : List (String × SchemaNode)} {fields : List Property}
    (resolved : entries.mapM (resolver.fieldOf required path depth) = .ok fields)
    {property : Property} (member : property ∈ fields) :
    ∃ child, (property.name, child) ∈ entries ∧
      resolver.fieldOf required path depth (property.name, child) = .ok property := by
  have aligned := Outcome.mapM_eq_ok.mp resolved
  clear resolved
  induction aligned with
  | nil => cases member
  | @cons entry field _ _ first remaining induction =>
      rcases List.mem_cons.mp member with equal | member
      · subst property
        rcases entry with ⟨name, child⟩
        cases fieldOf_name first
        exact ⟨child, List.mem_cons_self, first⟩
      · rcases induction member with ⟨child, found, resolved⟩
        exact ⟨child, List.mem_cons_of_mem _ found, resolved⟩

end Resolver

end CrdCompiler
