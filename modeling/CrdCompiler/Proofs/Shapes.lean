import CrdCompiler.Proofs.FieldTree

/-! # Shapes of resolved properties

The resolver never nests a collection in another. On the shapes that it does make, the readings of a
shape agree: a shape bears a structure exactly when its attribute is a nested one, and has an
element kind exactly when its attribute is a map or a list of that kind.
-/

namespace CrdCompiler

namespace TypeDescriptor

/-- Scalars and structures. -/
inductive Plain : TypeDescriptor → Prop where
  | scalar (kind : ScalarKind) : Plain (.scalar kind)
  | struct : Plain .struct

/-- Plain shapes, and collections of plain shapes. -/
inductive Flat : TypeDescriptor → Prop where
  | plain {type : TypeDescriptor} (plain : type.Plain) : Flat type
  | map {values : TypeDescriptor} (plain : values.Plain) : Flat (.map values)
  | array {elements : TypeDescriptor} (plain : elements.Plain) : Flat (.array elements)

theorem plain_iff_isElement {type : TypeDescriptor} : type.Plain ↔ type.isElement := by
  constructor
  · intro plain
    cases plain with
    | scalar kind => rfl
    | struct => rfl
  · intro element
    cases type with
    | scalar kind => exact .scalar kind
    | struct => exact .struct
    | map values => cases element
    | array elements => cases element

/-- The attribute of a shape has fields of its own. -/
def HasNestedAttribute (type : TypeDescriptor) : Prop :=
  type.attributeKind = .singleNested ∨ type.attributeKind = .mapNested ∨
    type.attributeKind = .listNested

theorem Flat.hasNestedAttribute_iff {type : TypeDescriptor} (flat : type.Flat) :
    type.HasNestedAttribute ↔ type.isStructBearing := by
  unfold HasNestedAttribute
  cases flat with
  | plain plain =>
      cases plain with
      | scalar kind => cases kind <;> simp [attributeKind, isStructBearing]
      | struct => simp [attributeKind, isStructBearing]
  | map plain =>
      cases plain with
      | scalar kind => simp [attributeKind, scalarKind?, isStructBearing]
      | struct => simp [attributeKind, scalarKind?, isStructBearing]
  | array plain =>
      cases plain with
      | scalar kind => simp [attributeKind, scalarKind?, isStructBearing]
      | struct => simp [attributeKind, scalarKind?, isStructBearing]

/-- A map of maps is not flat: its attribute is nested although it bears no structure. -/
example : (map (map .struct)).attributeKind = .mapNested ∧
    (map (map .struct)).isStructBearing = false := by
  decide

theorem elementKind?_eq_some_iff {type : TypeDescriptor} {kind : ScalarKind} :
    type.elementKind? = some kind ↔
      type.attributeKind = .map kind ∨ type.attributeKind = .list kind := by
  cases type with
  | scalar kind => cases kind <;> simp [elementKind?, attributeKind]
  | struct => simp [elementKind?, attributeKind]
  | map values => cases found : values.scalarKind? <;> simp [elementKind?, attributeKind, found]
  | array elements =>
      cases found : elements.scalarKind? <;> simp [elementKind?, attributeKind, found]

end TypeDescriptor

/-- What holds between a resolved shape and the fields that go with it. -/
structure WellShaped (type : TypeDescriptor) (children : List Property) : Prop where
  flat : type.Flat
  bearing : children ≠ [] → type.isStructBearing
  inhabited : type = .struct → children ≠ []
  nested : type.HasNestedAttribute ↔ type.isStructBearing
  elements : ∀ kind, type.elementKind? = some kind ↔
    type.attributeKind = .map kind ∨ type.attributeKind = .list kind

namespace Resolver

variable {resolver : Resolver} {path : SchemaPath} {depth : Nat}

theorem recordOf_ne_nil {node : SchemaNode} {siblings : List Property}
    (resolved : resolver.recordOf path depth node = .ok siblings)
    (inhabited : node.properties ≠ []) : siblings ≠ [] := by
  rcases recordOf_eq_ok.mp resolved with ⟨_, fields, aligned, rfl⟩
  have sameLength : (Property.sortSiblings fields).length = node.properties.length := by
    rw [(Property.sortSiblings_perm fields).length_eq,
      (Outcome.mapM_eq_ok.mp aligned).length_eq]
  intro empty
  rw [empty, List.length_nil] at sameLength
  exact inhabited (List.eq_nil_of_length_eq_zero sameLength.symm)

theorem Shaped.flat {position : Position} {node : SchemaNode} {type : TypeDescriptor}
    {children : List Property} (shaped : resolver.Shaped path depth position node type children) :
    type.Flat := by
  cases shaped with
  | scalar form => exact .plain (.scalar _)
  | fieldless form => exact .plain .struct
  | record form fields => exact .plain .struct
  | map form element plain => exact .map (TypeDescriptor.plain_iff_isElement.mpr plain)
  | list form element plain => exact .array (TypeDescriptor.plain_iff_isElement.mpr plain)

/-- Children come with a shape only when some node owns its fields, and then it bears a
structure. -/
theorem FieldsFrom.isStructBearing {node : SchemaNode} {type : TypeDescriptor}
    {children : List Property} (origin : resolver.FieldsFrom path depth node type children)
    (inhabited : children ≠ []) : type.isStructBearing := by
  cases origin with
  | nowhere _ => exact absurd rfl inhabited
  | fieldless _ _ => exact absurd rfl inhabited
  | record owned _ =>
      unfold SchemaNode.fieldOwner? at owned
      split at owned
      · rfl
      · rfl
      · rfl
      · cases owned

theorem Shaped.wellShaped {node : SchemaNode} {type : TypeDescriptor} {children : List Property}
    (shaped : resolver.Shaped path depth .property node type children) :
    WellShaped type children where
  flat := shaped.flat
  bearing := shaped.fieldsFrom.isStructBearing
  inhabited := by
    intro isStruct
    cases shaped with
    | scalar form => cases isStruct
    | record form fields =>
        cases SchemaNode.form_eq_iff.mp form with
        | record typed closed inhabited => exact recordOf_ne_nil fields inhabited
    | map form element plain => cases isStruct
    | list form element plain => cases isStruct
  nested := shaped.flat.hasNestedAttribute_iff
  elements _ := TypeDescriptor.elementKind?_eq_some_iff

theorem makesOnly_wellShaped (resolver : Resolver) :
    resolver.MakesOnly fun _ property => WellShaped property.type property.children := by
  intro required path depth name child property resolved
  rcases fieldOf_eq_ok.mp resolved with ⟨type, children, metadata, shaped, _, rfl⟩
  exact (typeOf_eq_ok.mp shaped).wellShaped

theorem wellShaped_of_within_record {node : SchemaNode} {siblings : List Property}
    (resolved : resolver.recordOf path depth node = .ok siblings) {property : Property}
    (within : Property.Within siblings property) :
    WellShaped property.type property.children := by
  have each := eachField_of_recordOf resolver.makesOnly_wellShaped resolved
  rcases each.of_within within with ⟨_, wellShaped⟩
  exact wellShaped

/-- Every property of a resolved tree is well shaped, and so is the shape of a single node together
with every property below it. -/
theorem wellShaped_throughout (resolver : Resolver) (node : SchemaNode) (path : SchemaPath) :
    (∀ properties, resolver.resolveProperties node path = .ok properties →
      ∀ property, Property.Within properties property →
        WellShaped property.type property.children) ∧
    ∀ type children, resolver.resolveType node path = .ok (type, children) →
      WellShaped type children ∧ ∀ property, Property.Within children property →
        WellShaped property.type property.children := by
  constructor
  · intro properties resolved property within
    rw [resolveProperties_eq] at resolved
    exact wellShaped_of_within_record resolved within
  · intro type children resolved
    have shaped := typeOf_eq_ok.mp resolved
    refine ⟨shaped.wellShaped, ?_⟩
    intro property within
    cases shaped.fieldsFrom with
    | nowhere _ =>
        cases within with
        | sibling member => cases member
        | inside member _ => cases member
    | fieldless _ _ =>
        cases within with
        | sibling member => cases member
        | inside member _ => cases member
    | record _ fields => exact wellShaped_of_within_record fields within

/-- A list of structures, each with a map of objects about which nothing is known. -/
def backendsSchema : SchemaNode where
  type := some "array"
  items := some {
    type := some "object"
    properties := [("extensions", {
      type := some "object"
      additionalProperties := .schema { type := some "object" } })] }

theorem backendsSchema_wellShaped :
    ∃ children, resolveType ⟨false, 2⟩ backendsSchema (.root "spec") =
        .ok (.array .struct, children) ∧
      (children.map fun field => (field.name, field.type, field.children.length)) =
        [("extensions", .map .struct, 0)] ∧
      WellShaped (.array .struct) children ∧
      ∀ property, Property.Within children property →
        WellShaped property.type property.children := by
  refine ⟨_, rfl, ?_, (wellShaped_throughout ⟨false, 2⟩ backendsSchema (.root "spec")).2 _ _ rfl⟩
  simp [Property.sortSiblings, propertyOf]

end Resolver

end CrdCompiler
