import CrdCompiler.Proofs.Mirror

/-! # Fields at every depth

The children of a property are the fields of one schema node, resolved one level deeper. What holds
of every field that the resolver makes therefore holds of every property of a tree and the schema
that declares it.
-/

namespace CrdCompiler

/-- The property is one of the siblings or stands below one of them. -/
inductive Property.Within : List Property → Property → Prop where
  | sibling {siblings : List Property} {property : Property} (member : property ∈ siblings) :
      Within siblings property
  | inside {siblings : List Property} {parent property : Property} (member : parent ∈ siblings)
      (deeper : Within parent.children property) : Within siblings property

namespace SchemaNode

/-- Each property of a tree, at any depth, is declared under its name by the node that owns the
fields around it, and `Holds` of the schema that stands there. -/
inductive EachField (Holds : SchemaNode → Property → Prop) : SchemaNode → List Property → Prop where
  | nil {owner : SchemaNode} : EachField Holds owner []
  | cons {owner child : SchemaNode} {property : Property} {rest : List Property}
      (declared : (property.name, child) ∈ owner.properties) (holds : Holds child property)
      (leaf : child.fieldOwner? property.type = none → property.children = [])
      (nested : ∀ below, child.fieldOwner? property.type = some below →
        EachField Holds below property.children)
      (others : EachField Holds owner rest) : EachField Holds owner (property :: rest)

structure FieldHolds (Holds : SchemaNode → Property → Prop) (owner child : SchemaNode)
    (property : Property) : Prop where
  declared : (property.name, child) ∈ owner.properties
  holds : Holds child property
  leaf : child.fieldOwner? property.type = none → property.children = []
  nested : ∀ below, child.fieldOwner? property.type = some below →
    EachField Holds below property.children

variable {Holds : SchemaNode → Property → Prop}

theorem eachField_iff {owner : SchemaNode} {siblings : List Property} :
    EachField Holds owner siblings ↔
      ∀ property ∈ siblings, ∃ child, FieldHolds Holds owner child property := by
  constructor
  · intro each
    induction each with
    | nil => exact List.forall_mem_nil _
    | cons declared holds leaf nested others _ induction =>
        exact List.forall_mem_cons.mpr ⟨⟨_, declared, holds, leaf, nested⟩, induction⟩
  · intro fields
    induction siblings with
    | nil => exact .nil
    | cons property rest induction =>
        rcases List.forall_mem_cons.mp fields with ⟨⟨child, field⟩, others⟩
        exact .cons field.declared field.holds field.leaf field.nested (induction others)

theorem EachField.of_within {siblings : List Property} {property : Property}
    (within : Property.Within siblings property) {owner : SchemaNode}
    (each : EachField Holds owner siblings) : ∃ child, Holds child property := by
  induction within generalizing owner with
  | sibling member =>
      rcases eachField_iff.mp each _ member with ⟨child, field⟩
      exact ⟨child, field.holds⟩
  | @inside siblings parent property member deeper induction =>
      rcases eachField_iff.mp each parent member with ⟨child, field⟩
      cases owned : child.fieldOwner? parent.type with
      | none =>
          rw [field.leaf owned] at deeper
          cases deeper with
          | sibling member => cases member
          | inside member _ => cases member
      | some below => exact induction (field.nested below owned)

theorem sizeOf_fieldOwner_le {node below : SchemaNode} {type : TypeDescriptor}
    (owned : node.fieldOwner? type = some below) : sizeOf below ≤ sizeOf node := by
  unfold fieldOwner? at owned
  split at owned
  · cases owned
    exact le_rfl
  · split at owned
    · rename_i values valued
      cases owned
      exact (sizeOf_values_lt valued).le
    · cases owned
  · exact (sizeOf_elements_lt owned).le
  · cases owned

end SchemaNode

namespace Resolver

open SchemaNode

variable {resolver : Resolver} {path : SchemaPath} {depth : Nat}

inductive FieldsFrom (resolver : Resolver) (path : SchemaPath) (depth : Nat) (node : SchemaNode)
    (type : TypeDescriptor) : List Property → Prop where
  | nowhere (ownerless : node.fieldOwner? type = none) : FieldsFrom resolver path depth node type []
  | fieldless {owner : SchemaNode} (owned : node.fieldOwner? type = some owner)
      (empty : owner.properties = []) : FieldsFrom resolver path depth node type []
  | record {owner : SchemaNode} {children : List Property}
      (owned : node.fieldOwner? type = some owner)
      (fields : resolver.recordOf path (depth + 1) owner = .ok children) :
      FieldsFrom resolver path depth node type children

theorem FieldsFrom.collection {node element : SchemaNode}
    {collection : TypeDescriptor → TypeDescriptor} {type : TypeDescriptor}
    {children : List Property}
    (shaped : resolver.Shaped path depth .element element type children) (plain : type.isElement)
    (ofScalars : ∀ kind, node.fieldOwner? (collection (.scalar kind)) = none)
    (ofStructs : node.fieldOwner? (collection .struct) = some element) :
    resolver.FieldsFrom path depth node (collection type) children := by
  cases shaped with
  | scalar form => exact .nowhere (ofScalars _)
  | fieldless form =>
      cases form_eq_iff.mp form with
      | fieldless typed closed empty => exact .fieldless ofStructs empty
  | record form fields => exact .record ofStructs fields
  | map form element plain' => cases plain
  | list form element plain' => cases plain

theorem Shaped.fieldsFrom {position : Position} {node : SchemaNode} {type : TypeDescriptor}
    {children : List Property} (shaped : resolver.Shaped path depth position node type children) :
    resolver.FieldsFrom path depth node type children := by
  cases shaped with
  | scalar form => exact .nowhere rfl
  | fieldless form =>
      cases form_eq_iff.mp form with
      | fieldless typed closed empty => exact .fieldless rfl empty
  | record form fields => exact .record rfl fields
  | map form element plain =>
      cases form_eq_iff.mp form with
      | map typed valued empty =>
          exact .collection (typeOf_eq_ok.mp element) plain (fun _ => rfl)
            (by simp [fieldOwner?, valued])
  | list form element plain =>
      cases form_eq_iff.mp form with
      | list typed itemized =>
          exact .collection (typeOf_eq_ok.mp element) plain (fun _ => rfl) itemized

theorem fieldsFrom_of_fieldOf {required : List String} {name : String} {node : SchemaNode}
    {property : Property}
    (resolved : resolver.fieldOf required path depth (name, node) = .ok property) :
    resolver.FieldsFrom (path.child name) depth node property.type property.children := by
  rcases fieldOf_eq_ok.mp resolved with ⟨type, children, metadata, shaped, _, rfl⟩
  exact (typeOf_eq_ok.mp shaped).fieldsFrom

/-- The resolver makes only fields of which `Holds` is true. -/
def MakesOnly (resolver : Resolver) (Holds : SchemaNode → Property → Prop) : Prop :=
  ∀ required path depth name child property,
    resolver.fieldOf required path depth (name, child) = .ok property → Holds child property

variable {Holds : SchemaNode → Property → Prop}

theorem eachField_of_recordOf (made : resolver.MakesOnly Holds) {path : SchemaPath} {depth : Nat}
    {node : SchemaNode} {siblings : List Property}
    (resolved : resolver.recordOf path depth node = .ok siblings) :
    EachField Holds node siblings := by
  rcases recordOf_eq_ok.mp resolved with ⟨_, fields, aligned, rfl⟩
  apply eachField_iff.mpr
  intro property member
  rcases exists_entry_of_mem aligned (Property.mem_sortSiblings.mp member) with
    ⟨child, declared, field⟩
  have origin := fieldsFrom_of_fieldOf field
  refine ⟨child, declared, made _ _ _ _ _ _ field, ?_, ?_⟩
  · intro ownerless
    generalize property.children = children at origin
    cases origin with
    | nowhere _ => rfl
    | fieldless _ _ => rfl
    | record owned _ =>
        rw [ownerless] at owned
        cases owned
  · intro below owned
    generalize property.children = children at origin
    cases origin with
    | nowhere _ => exact .nil
    | fieldless _ _ => exact .nil
    | record owned' fields =>
        cases owned.symm.trans owned'
        exact eachField_of_recordOf made fields
termination_by sizeOf node
decreasing_by
  exact (sizeOf_fieldOwner_le owned).trans_lt (sizeOf_property_lt declared)

theorem eachField_of_resolveProperties (made : resolver.MakesOnly Holds) {node : SchemaNode}
    {properties : List Property}
    (resolved : resolver.resolveProperties node path = .ok properties) :
    EachField Holds node properties := by
  rw [resolveProperties_eq] at resolved
  exact eachField_of_recordOf made resolved

end Resolver

end CrdCompiler
