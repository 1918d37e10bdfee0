import CrdCompiler.Proofs.Resolution

/-! # Lists and maps of the same elements

The items of a list and the values of a map are resolved alike, and alike to a property with the
same schema, but for an object about which nothing is known: it is no property, and a structure
without fields in a collection. What a collection may hold is looked at afterwards, in the words of
the collection.
-/

namespace CrdCompiler.Resolver

variable {resolver : Resolver} {path : SchemaPath} {element list map : SchemaNode}

/-- Where a node stands matters for objects about which nothing is known, and for no others. -/
theorem typeOf_position {depth : Nat} {node : SchemaNode} (known : node.form ≠ .fieldless)
    (position : Position) :
    resolver.typeOf position path depth node = resolver.typeOf .property path depth node := by
  rw [typeOf_eq, typeOf_eq]
  cases form : node.form with
  | fieldless => exact absurd form known
  | _ => rfl

/-- How a list and a map of elements resolve, compared with the schema of the elements on its
own. -/
inductive CollectedAlike (resolver : Resolver) (path : SchemaPath) (element list map : SchemaNode) :
    Prop where
  | collected {type : TypeDescriptor} {children : List Property} (plain : type.isElement)
      (alone : resolver.resolveType element path = .ok (type, children))
      (listed : resolver.resolveType list path = .ok (.array type, children))
      (mapped : resolver.resolveType map path = .ok (.map type, children))
  | fieldless (form : element.form = .fieldless)
      (alone : resolver.resolveType element path = .error (.shape path .noFields))
      (listed : resolver.resolveType list path = .ok (.array .struct, []))
      (mapped : resolver.resolveType map path = .ok (.map .struct, []))
  | nested {type : TypeDescriptor} {children : List Property}
      (collection : ∃ inner, type = .array inner ∨ type = .map inner)
      (alone : resolver.resolveType element path = .ok (type, children))
      (listed : resolver.resolveType list path = .error (.shape path .nestedItems))
      (mapped : resolver.resolveType map path = .error (.shape path .nestedValues))
  | refused {fault : CompileError} (alone : resolver.resolveType element path = .error fault)
      (listed : resolver.resolveType list path = .error fault)
      (mapped : resolver.resolveType map path = .error fault)

theorem collection_of_not_isElement {type : TypeDescriptor} (nested : ¬ type.isElement) :
    ∃ inner, type = .array inner ∨ type = .map inner := by
  cases type with
  | scalar kind => exact absurd rfl nested
  | struct => exact absurd rfl nested
  | map values => exact ⟨values, .inr rfl⟩
  | array elements => exact ⟨elements, .inl rfl⟩

theorem collectedAlike_of_forms (listed : list.form = .list element)
    (mapped : map.form = .map element) : CollectedAlike resolver path element list map := by
  have listOutcome : resolver.resolveType list path =
      resolver.typeOf .element path 0 element >>= collectionOf .array .nestedItems path := by
    rw [resolveType, typeOf_eq, listed]
  have mapOutcome : resolver.resolveType map path =
      resolver.typeOf .element path 0 element >>= collectionOf .map .nestedValues path := by
    rw [resolveType, typeOf_eq, mapped]
  by_cases form : element.form = .fieldless
  · rw [typeOf_eq, form] at listOutcome mapOutcome
    refine .fieldless form ?_ listOutcome mapOutcome
    rw [resolveType, typeOf_eq, form]
  · rw [typeOf_position form] at listOutcome mapOutcome
    cases alone : resolver.typeOf .property path 0 element with
    | error fault =>
        rw [alone] at listOutcome mapOutcome
        exact .refused alone listOutcome mapOutcome
    | ok shape =>
        rcases shape with ⟨type, children⟩
        rw [alone, Outcome.ok_bind, collectionOf] at listOutcome mapOutcome
        by_cases plain : type.isElement
        · rw [if_pos plain] at listOutcome mapOutcome
          exact .collected plain alone listOutcome mapOutcome
        · rw [if_neg plain] at listOutcome mapOutcome
          exact .nested (collection_of_not_isElement plain) alone listOutcome mapOutcome

theorem Shaped.struct_of_inhabited {depth : Nat} {position : Position} {node : SchemaNode}
    {type : TypeDescriptor} {children : List Property}
    (shaped : resolver.Shaped path depth position node type children)
    (isObject : node.type = some "object") (inhabited : node.properties ≠ []) :
    type = .struct := by
  cases shaped with
  | fieldless form => rfl
  | record form fields => rfl
  | @scalar _ _ kind form =>
      have typed := isObject.symm.trans (SchemaNode.form_eq_scalar_iff.mp form)
      have known := ScalarKind.ofSchemaType?_schemaType kind
      rw [← Option.some_inj.mp typed, ScalarKind.ofSchemaType?_object] at known
      cases known
  | map form element plain =>
      cases SchemaNode.form_eq_iff.mp form with
      | map typed valued empty => exact absurd empty inhabited
  | list form element plain =>
      cases SchemaNode.form_eq_iff.mp form with
      | list typed itemized => exact absurd (isObject.symm.trans typed) (by decide)

/-- Lists and maps of the same elements resolve alike: to collections of one shape with one list of
fields, or to one error, but that elements which are collections themselves are refused in other
words. An object with properties has the same fields on its own, in a list and in a map, or fails
with the same error. -/
theorem collections_resolve_alike (resolver : Resolver) (path : SchemaPath)
    (listType : list.type = some "array") (items : list.items = some element)
    (mapType : map.type = some "object") (bare : map.properties = [])
    (values : map.additionalProperties = .schema element) :
    CollectedAlike resolver path element list map ∧
      (element.type = some "object" → element.properties ≠ [] →
        (∃ children, resolver.resolveType element path = .ok (.struct, children) ∧
          resolver.resolveType list path = .ok (.array .struct, children) ∧
          resolver.resolveType map path = .ok (.map .struct, children)) ∨
        ∃ fault, resolver.resolveType element path = .error fault ∧
          resolver.resolveType list path = .error fault ∧
          resolver.resolveType map path = .error fault) := by
  have alike : CollectedAlike resolver path element list map :=
    collectedAlike_of_forms (SchemaNode.form_eq_iff.mpr (.list listType items))
      (SchemaNode.form_eq_iff.mpr (.map mapType values bare))
  refine ⟨alike, ?_⟩
  intro isObject inhabited
  cases alike with
  | collected plain alone listed mapped =>
      cases (typeOf_eq_ok.mp alone).struct_of_inhabited isObject inhabited
      exact .inl ⟨_, alone, listed, mapped⟩
  | fieldless form alone listed mapped =>
      cases SchemaNode.form_eq_iff.mp form with
      | fieldless typed closed empty => exact absurd empty inhabited
  | nested collection alone listed mapped =>
      cases (typeOf_eq_ok.mp alone).struct_of_inhabited isObject inhabited
      rcases collection with ⟨inner, array | map⟩
      · cases array
      · cases map
  | refused alone listed mapped => exact .inr ⟨_, alone, listed, mapped⟩

/-- A gateway with listeners, each of them on a port. -/
def gatewaySchema : SchemaNode where
  type := some "object"
  properties := [
    ("listeners", {
      type := some "array"
      items := some {
        type := some "object"
        properties := [("port", { type := some "integer" })] } }),
    ("class", { type := some "string" })]

def gatewayList : SchemaNode where
  type := some "array"
  items := some gatewaySchema

def gatewayMap : SchemaNode where
  type := some "object"
  additionalProperties := .schema gatewaySchema

theorem gatewaySchema_collected :
    gatewayList.type = some "array" ∧ gatewayList.items = some gatewaySchema ∧
      gatewayMap.type = some "object" ∧ gatewayMap.properties = [] ∧
      gatewayMap.additionalProperties = .schema gatewaySchema ∧
      gatewaySchema.type = some "object" ∧ gatewaySchema.properties ≠ [] ∧
      (∃ children, resolveType ⟨false, 3⟩ gatewaySchema (.root "spec") = .ok (.struct, children) ∧
        resolveType ⟨false, 3⟩ gatewayList (.root "spec") = .ok (.array .struct, children) ∧
        resolveType ⟨false, 3⟩ gatewayMap (.root "spec") = .ok (.map .struct, children)) ∧
      ∃ fault, resolveType ⟨false, 2⟩ gatewaySchema (.root "spec") = .error fault ∧
        resolveType ⟨false, 2⟩ gatewayList (.root "spec") = .error fault ∧
        resolveType ⟨false, 2⟩ gatewayMap (.root "spec") = .error fault := by
  have items : gatewayList.items = some gatewaySchema := rfl
  have values : gatewayMap.additionalProperties = .schema gatewaySchema := rfl
  have isObject : gatewaySchema.type = some "object" := rfl
  have inhabited : gatewaySchema.properties ≠ [] := List.cons_ne_nil _ _
  have resolved : ∃ shape, resolveType ⟨false, 3⟩ gatewaySchema (.root "spec") = .ok shape :=
    ⟨_, rfl⟩
  have refused : resolveType ⟨false, 2⟩ gatewaySchema (.root "spec") =
      .error (.shape ((SchemaPath.root "spec").child "listeners") (.tooDeep 2)) := rfl
  have alike (maxDepth : Nat) :=
    (collections_resolve_alike ⟨false, maxDepth⟩ (.root "spec") rfl items rfl rfl values).2
      isObject inhabited
  refine ⟨rfl, items, rfl, rfl, values, isObject, inhabited, ?_, ?_⟩
  · rcases alike 3 with whole | ⟨fault, failed, _⟩
    · exact whole
    · rcases resolved with ⟨shape, resolved⟩
      cases resolved.symm.trans failed
  · rcases alike 2 with ⟨children, whole, _⟩ | cut
    · cases refused.symm.trans whole
    · exact cut

-- A collection of lists is refused in its own words, whatever the lists hold.
example (path : SchemaPath) :
    resolveType ⟨false, 3⟩ { type := some "array", items := some gatewayList } path =
      .error (.shape path .nestedItems) := rfl

example (path : SchemaPath) :
    resolveType ⟨false, 3⟩ {
      type := some "object", additionalProperties := .schema gatewayList } path =
        .error (.shape path .nestedValues) := rfl

end CrdCompiler.Resolver
