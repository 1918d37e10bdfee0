import CrdCompiler.Proofs.ByteOrder
import CrdCompiler.Proofs.Decoding
import CrdCompiler.Proofs.Keys

/-! # Property trees mirror schemas

A resolved tree has one property for each key of the schema, at every level. The keys below a
collection are those of its elements, and so are the required names: the collection itself says
nothing about the fields inside it.
-/

namespace CrdCompiler

namespace SchemaNode

/-- The shape that the keywords of a node ask for. -/
inductive HasShape : SchemaNode → TypeDescriptor → Prop where
  | scalar {node : SchemaNode} {kind : ScalarKind} (typed : node.type = some kind.schemaType) :
      node.HasShape (.scalar kind)
  | struct {node : SchemaNode} (typed : node.type = some "object")
      (closed : node.HasNoValueSchema) : node.HasShape .struct
  | map {node values : SchemaNode} {type : TypeDescriptor} (typed : node.type = some "object")
      (valued : node.additionalProperties = .schema values) (shape : values.HasShape type) :
      node.HasShape (.map type)
  | array {node elements : SchemaNode} {type : TypeDescriptor} (typed : node.type = some "array")
      (itemized : node.items = some elements) (shape : elements.HasShape type) :
      node.HasShape (.array type)

/-- The node that declares the fields of a property: itself for a structure, and the element of a
collection of structures. -/
def fieldOwner? (node : SchemaNode) : TypeDescriptor → Option SchemaNode
  | .struct => some node
  | .map .struct =>
    match node.additionalProperties with
    | .schema values => some values
    | _ => none
  | .array .struct => node.items
  | _ => none

mutual

/-- The properties are the fields that a node declares. -/
inductive MirroredBy : SchemaNode → List Property → Prop where
  | intro {owner : SchemaNode} {siblings : List Property}
      (names : (siblings.map Property.name).Perm (owner.properties.map Prod.fst))
      (ascending : siblings.Pairwise fun left right =>
        Text.bytes left.name < Text.bytes right.name)
      (fields : ∀ name child, (name, child) ∈ owner.properties → ∀ property ∈ siblings,
        property.name = name → FieldMirroredBy owner child property) :
      MirroredBy owner siblings

/-- The property is the field that an owner declares by a schema. -/
inductive FieldMirroredBy : SchemaNode → SchemaNode → Property → Prop where
  | intro {owner child : SchemaNode} {property : Property}
      (shape : child.HasShape property.type)
      (required : property.required ↔ property.name ∈ owner.required)
      (optional : property.optional = !property.required)
      (leaf : child.fieldOwner? property.type = none → property.children = [])
      (nested : ∀ below, child.fieldOwner? property.type = some below →
        MirroredBy below property.children) :
      FieldMirroredBy owner child property

end

end SchemaNode

namespace Resolver

open SchemaNode

structure ChildrenMirrored (node : SchemaNode) (type : TypeDescriptor)
    (children : List Property) : Prop where
  shape : node.HasShape type
  leaf : node.fieldOwner? type = none → children = []
  nested : ∀ below, node.fieldOwner? type = some below → below.MirroredBy children

theorem ChildrenMirrored.collection {node element : SchemaNode}
    {collection : TypeDescriptor → TypeDescriptor} {type : TypeDescriptor}
    {children : List Property} (mirrored : ChildrenMirrored element type children)
    (plain : type.isElement) (shape : node.HasShape (collection type))
    (ofScalars : ∀ kind, node.fieldOwner? (collection (.scalar kind)) = none)
    (ofStructs : node.fieldOwner? (collection .struct) = some element) :
    ChildrenMirrored node (collection type) children := by
  cases type with
  | scalar kind =>
      refine ⟨shape, fun _ => mirrored.leaf rfl, ?_⟩
      intro below owned
      rw [ofScalars] at owned
      cases owned
  | struct =>
      refine ⟨shape, ?_, ?_⟩
      · intro ownerless
        rw [ofStructs] at ownerless
        cases ownerless
      · intro below owned
        rw [ofStructs] at owned
        cases owned
        exact mirrored.nested element rfl
  | map values => cases plain
  | array elements => cases plain

theorem mirroredBy_of_no_properties {node : SchemaNode} (empty : node.properties = []) :
    node.MirroredBy [] := by
  refine .intro ?_ .nil ?_
  · rw [empty]
    exact .nil
  · intro name child member property sibling
    cases sibling

variable {resolver : Resolver} {path : SchemaPath} {depth : Nat}

theorem fieldMirroredBy_of_fieldOf {owner child : SchemaNode} {name : String} {property : Property}
    (resolved : resolver.fieldOf owner.required path depth (name, child) = .ok property)
    (mirrored : ∀ type children,
      resolver.typeOf .property (path.child name) depth child = .ok (type, children) →
        ChildrenMirrored child type children) :
    FieldMirroredBy owner child property := by
  rcases fieldOf_eq_ok.mp resolved with ⟨type, children, metadata, shaped, derived, rfl⟩
  have below := mirrored type children shaped
  have required : metadata.required = owner.required.contains name :=
    Metadata.derive_required derived
  refine .intro below.shape ?_ rfl below.leaf below.nested
  change metadata.required = true ↔ name ∈ owner.required
  rw [required, List.contains_iff_mem]

theorem mirroredBy_of_recordOf {node : SchemaNode} (distinct : node.HasDistinctKeys)
    {siblings : List Property} (resolved : resolver.recordOf path depth node = .ok siblings)
    (mirrored : ∀ name child, (name, child) ∈ node.properties → ∀ type children,
      resolver.typeOf .property (path.child name) depth child = .ok (type, children) →
        ChildrenMirrored child type children) :
    node.MirroredBy siblings := by
  rcases recordOf_eq_ok.mp resolved with ⟨_, fields, aligned, rfl⟩
  have distinctNames := fields_distinct distinct.keys aligned
  apply MirroredBy.intro
  · rw [← fields_names aligned]
    exact (Property.sortSiblings_perm fields).map Property.name
  · exact distinctNames.sortSiblings_ascend.imp Text.bytes_lt_bytes.mpr
  · intro name child member property sibling named
    subst name
    rcases exists_entry_of_mem aligned (Property.mem_sortSiblings.mp sibling) with
      ⟨child', member', made⟩
    cases eq_of_mem_of_mem distinct.keys member member'
    exact fieldMirroredBy_of_fieldOf made (mirrored _ _ member)

theorem childrenMirrored_of_typeOf {position : Position} {path : SchemaPath} {depth : Nat}
    {node : SchemaNode} (distinct : node.HasDistinctKeys) {type : TypeDescriptor}
    {children : List Property}
    (shaped : resolver.typeOf position path depth node = .ok (type, children)) :
    ChildrenMirrored node type children := by
  cases typeOf_eq_ok.mp shaped with
  | scalar form =>
      exact ⟨.scalar (form_eq_scalar_iff.mp form), fun _ => rfl, nofun⟩
  | fieldless form =>
      cases form_eq_iff.mp form with
      | fieldless typed closed empty =>
          refine ⟨.struct typed closed, fun _ => rfl, ?_⟩
          intro _ equal
          cases equal
          exact mirroredBy_of_no_properties empty
  | record form fields =>
      cases form_eq_iff.mp form with
      | record typed closed inhabited =>
          refine ⟨.struct typed closed, nofun, ?_⟩
          intro _ equal
          cases equal
          apply mirroredBy_of_recordOf distinct fields
          intro name child member type children below
          exact childrenMirrored_of_typeOf (distinct.property member) below
  | map form element plain =>
      cases form_eq_iff.mp form with
      | map typed valued empty =>
          have mirrored := childrenMirrored_of_typeOf (distinct.value valued) element
          exact mirrored.collection plain (.map typed valued mirrored.shape) (fun _ => rfl)
            (by simp [fieldOwner?, valued])
  | list form element plain =>
      cases form_eq_iff.mp form with
      | list typed itemized =>
          have mirrored := childrenMirrored_of_typeOf (distinct.item itemized) element
          exact mirrored.collection plain (.array typed itemized mirrored.shape) (fun _ => rfl)
            itemized
termination_by sizeOf node
decreasing_by
  · exact sizeOf_property_lt member
  · exact sizeOf_values_lt valued
  · exact sizeOf_elements_lt itemized

/-- A tree that resolves mirrors its schema: no field is lost, doubled or moved to another
parent. -/
theorem mirroredBy_of_resolveProperties {node : SchemaNode} (distinct : node.HasDistinctKeys)
    {properties : List Property}
    (resolved : resolver.resolveProperties node path = .ok properties) :
    node.MirroredBy properties := by
  rw [resolveProperties_eq] at resolved
  apply mirroredBy_of_recordOf distinct resolved
  intro name child member type children shaped
  exact childrenMirrored_of_typeOf (distinct.property member) shaped

/-- A list whose elements require `host`, while the list itself names `port` as required. -/
def rulesSchema : SchemaNode where
  required := ["rules", "host"]
  properties := [("rules", {
    type := some "array"
    required := ["port"]
    items := some {
      type := some "object"
      required := ["host"]
      properties :=
        [("port", { type := some "integer" }), ("host", { type := some "string" })] } })]

theorem rulesSchema_mirrored :
    rulesSchema.HasDistinctKeys ∧
      ∃ properties, resolveProperties ⟨false, 2⟩ rulesSchema (.root "spec") = .ok properties ∧
        (properties.map fun rules => (rules.name, rules.required,
          rules.children.map fun field => (field.name, field.required))) =
            [("rules", true, [("host", true), ("port", false)])] ∧
        rulesSchema.MirroredBy properties := by
  have distinct : rulesSchema.HasDistinctKeys := by decide
  refine ⟨distinct, _, rfl, ?_, ?_⟩
  · simp [Property.sortSiblings, propertyOf, List.mergeSort, List.MergeSort.Internal.splitInTwo,
      rulesSchema]
  · exact @mirroredBy_of_resolveProperties ⟨false, 2⟩ (.root "spec") _ distinct _ rfl

end Resolver

end CrdCompiler
