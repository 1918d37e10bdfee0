import CrdCompiler.Proofs.Outcome
import CrdCompiler.Proofs.SchemaForm

/-! # Resolution by forms

The resolver restated along the forms of schema nodes: one equation for the shape of a node, and
the fields of a record as one run over its named schemas.
-/

namespace CrdCompiler.Resolver

def fieldOf (resolver : Resolver) (required : List String) (path : SchemaPath) (depth : Nat)
    (entry : String × SchemaNode) : Except CompileError Property := do
  let (type, children) ← resolver.typeOf .property (path.child entry.1) depth entry.2
  let metadata ←
    Metadata.derive entry.2 (required.contains entry.1) type.scalarKind? (path.child entry.1)
  return resolver.propertyOf entry.1 type children metadata

def recordOf (resolver : Resolver) (path : SchemaPath) (depth : Nat) (node : SchemaNode) :
    Except CompileError (List Property) := do
  resolver.enter path depth
  let fields ← node.properties.mapM (resolver.fieldOf node.required path depth)
  return Property.sortSiblings fields

theorem fieldsOf_eq_mapM (resolver : Resolver) (required : List String) (path : SchemaPath)
    (depth : Nat) (entries : List (String × SchemaNode)) :
    resolver.fieldsOf required path depth entries =
      entries.mapM (resolver.fieldOf required path depth) := by
  induction entries with
  | nil => rfl
  | cons entry rest induction =>
      rw [fieldsOf, List.mapM_cons, induction, fieldOf]
      simp only [bind_assoc, pure_bind]
      rfl

theorem resolveProperties_eq (resolver : Resolver) (node : SchemaNode) (path : SchemaPath) :
    resolver.resolveProperties node path = resolver.recordOf path 0 node := by
  rw [resolveProperties, recordOf, fieldsOf_eq_mapM]

theorem typeOf_eq (resolver : Resolver) (position : Position) (path : SchemaPath) (depth : Nat)
    (node : SchemaNode) :
    resolver.typeOf position path depth node =
      match node.form with
      | .scalar kind => .ok (.scalar kind, [])
      | .fieldless =>
        match position with
        | .element => .ok (.struct, [])
        | .property => .error (.shape path .noFields)
      | .record => (fun children => (.struct, children)) <$> resolver.recordOf path (depth + 1) node
      | .map values => do
        let element ← resolver.typeOf .element path depth values
        collectionOf .map .nestedValues path element
      | .list elements => do
        let element ← resolver.typeOf .element path depth elements
        collectionOf .array .nestedItems path element
      | .faulty fault => .error (.shape path fault) := by
  rw [typeOf.eq_def]
  simp only [fieldsOf_eq_mapM, recordOf, map_bind, map_pure]
  generalize formed : node.form = form
  have declares := SchemaNode.form_eq_iff.mp formed
  clear formed
  cases node
  cases declares with
  | scalar typed =>
      cases typed
      simp [ScalarKind.ofSchemaType?_schemaType]
  | fieldless typed closed empty =>
      cases typed
      cases empty
      rcases closed with closed | closed <;> cases closed <;> cases position <;> simp
  | record typed closed inhabited =>
      cases typed
      rcases closed with closed | closed <;> cases closed <;> simp_all [pure, Except.pure]
  | map typed valued empty =>
      cases typed
      cases valued
      cases empty
      simp
  | list typed itemized =>
      cases typed
      cases itemized
      simp
  | untyped typed =>
      cases typed
      simp
  | untypedValues typed opened =>
      cases typed
      cases opened
      simp
  | fieldsAndValues typed valued inhabited =>
      cases typed
      cases valued
      simp_all
  | noItems typed itemless =>
      cases typed
      cases itemless
      simp
  | unknownType typed unknown notObject notArray =>
      cases typed
      simp [unknown, notObject, notArray]

/-! ## Successful steps -/

theorem enter_eq_ok {resolver : Resolver} {path : SchemaPath} {depth : Nat} :
    resolver.enter path depth = .ok () ↔ depth < resolver.maxDepth := by
  unfold enter
  split <;> simp <;> omega

theorem recordOf_eq_ok {resolver : Resolver} {path : SchemaPath} {depth : Nat} {node : SchemaNode}
    {siblings : List Property} :
    resolver.recordOf path depth node = .ok siblings ↔
      depth < resolver.maxDepth ∧
        ∃ fields, node.properties.mapM (resolver.fieldOf node.required path depth) = .ok fields ∧
          Property.sortSiblings fields = siblings := by
  rw [recordOf, Outcome.bind_eq_ok]
  constructor
  · intro holds
    rcases holds with ⟨_, entered, continued⟩
    rcases Outcome.bind_eq_ok.mp continued with ⟨fields, resolved, sorted⟩
    cases sorted
    exact ⟨enter_eq_ok.mp entered, fields, resolved, rfl⟩
  · intro holds
    rcases holds with ⟨shallow, fields, resolved, rfl⟩
    exact ⟨(), enter_eq_ok.mpr shallow, Outcome.bind_eq_ok.mpr ⟨fields, resolved, rfl⟩⟩

theorem fieldOf_eq_ok {resolver : Resolver} {required : List String} {path : SchemaPath}
    {depth : Nat} {entry : String × SchemaNode} {property : Property} :
    resolver.fieldOf required path depth entry = .ok property ↔
      ∃ type children metadata,
        resolver.typeOf .property (path.child entry.1) depth entry.2 = .ok (type, children) ∧
        Metadata.derive entry.2 (required.contains entry.1) type.scalarKind?
          (path.child entry.1) = .ok metadata ∧
        resolver.propertyOf entry.1 type children metadata = property := by
  rw [fieldOf, Outcome.bind_eq_ok]
  constructor
  · intro holds
    rcases holds with ⟨⟨type, children⟩, shaped, continued⟩
    rcases Outcome.bind_eq_ok.mp continued with ⟨metadata, derived, result⟩
    cases result
    exact ⟨type, children, metadata, shaped, derived, rfl⟩
  · intro holds
    rcases holds with ⟨type, children, metadata, shaped, derived, rfl⟩
    exact ⟨(type, children), shaped, Outcome.bind_eq_ok.mpr ⟨metadata, derived, rfl⟩⟩

theorem collectionOf_eq_ok {collection : TypeDescriptor → TypeDescriptor} {fault : ShapeFault}
    {path : SchemaPath} {element shape : TypeDescriptor × List Property} :
    collectionOf collection fault path element = .ok shape ↔
      element.1.isElement ∧ (collection element.1, element.2) = shape := by
  unfold collectionOf
  split <;> simp_all

/-- The ways in which a node gets a shape and the fields that go with it. -/
inductive Shaped (resolver : Resolver) (path : SchemaPath) (depth : Nat) :
    Position → SchemaNode → TypeDescriptor → List Property → Prop where
  | scalar {position : Position} {node : SchemaNode} {kind : ScalarKind}
      (form : node.form = .scalar kind) : resolver.Shaped path depth position node (.scalar kind) []
  | fieldless {node : SchemaNode} (form : node.form = .fieldless) :
      resolver.Shaped path depth .element node .struct []
  | record {position : Position} {node : SchemaNode} {children : List Property}
      (form : node.form = .record)
      (fields : resolver.recordOf path (depth + 1) node = .ok children) :
      resolver.Shaped path depth position node .struct children
  | map {position : Position} {node values : SchemaNode} {type : TypeDescriptor}
      {children : List Property} (form : node.form = .map values)
      (element : resolver.typeOf .element path depth values = .ok (type, children))
      (plain : type.isElement) : resolver.Shaped path depth position node (.map type) children
  | list {position : Position} {node elements : SchemaNode} {type : TypeDescriptor}
      {children : List Property} (form : node.form = .list elements)
      (element : resolver.typeOf .element path depth elements = .ok (type, children))
      (plain : type.isElement) : resolver.Shaped path depth position node (.array type) children

theorem typeOf_eq_ok {resolver : Resolver} {position : Position} {path : SchemaPath} {depth : Nat}
    {node : SchemaNode} {type : TypeDescriptor} {children : List Property} :
    resolver.typeOf position path depth node = .ok (type, children) ↔
      resolver.Shaped path depth position node type children := by
  rw [typeOf_eq]
  constructor
  · intro success
    cases form : node.form with
    | scalar kind =>
        rw [form] at success
        cases success
        exact .scalar form
    | fieldless =>
        rw [form] at success
        cases position with
        | property => cases success
        | element =>
            cases success
            exact .fieldless form
    | record =>
        rw [form] at success
        rcases Outcome.map_eq_ok.mp success with ⟨_, fields, shape⟩
        cases shape
        exact .record form fields
    | map values =>
        rw [form] at success
        rcases Outcome.bind_eq_ok.mp success with ⟨_, element, collected⟩
        rcases collectionOf_eq_ok.mp collected with ⟨plain, shape⟩
        cases shape
        exact .map form element plain
    | list elements =>
        rw [form] at success
        rcases Outcome.bind_eq_ok.mp success with ⟨_, element, collected⟩
        rcases collectionOf_eq_ok.mp collected with ⟨plain, shape⟩
        cases shape
        exact .list form element plain
    | faulty fault =>
        rw [form] at success
        cases success
  · intro shaped
    cases shaped with
    | scalar form => rw [form]
    | fieldless form => rw [form]
    | record form fields =>
        rw [form]
        exact Outcome.map_eq_ok.mpr ⟨_, fields, rfl⟩
    | map form element plain =>
        rw [form]
        exact Outcome.bind_eq_ok.mpr ⟨_, element, collectionOf_eq_ok.mpr ⟨plain, rfl⟩⟩
    | list form element plain =>
        rw [form]
        exact Outcome.bind_eq_ok.mpr ⟨_, element, collectionOf_eq_ok.mpr ⟨plain, rfl⟩⟩

theorem Shaped.scalarKind?_eq_some_iff {resolver : Resolver} {position : Position}
    {path : SchemaPath} {depth : Nat} {node : SchemaNode} {type : TypeDescriptor}
    {children : List Property} (shaped : resolver.Shaped path depth position node type children)
    {kind : ScalarKind} : type.scalarKind? = some kind ↔ node.type = some kind.schemaType := by
  rw [← SchemaNode.form_eq_scalar_iff]
  cases shaped with
  | scalar form => simp [TypeDescriptor.scalarKind?, form]
  | fieldless form => simp [TypeDescriptor.scalarKind?, form]
  | record form fields => simp [TypeDescriptor.scalarKind?, form]
  | map form element plain => simp [TypeDescriptor.scalarKind?, form]
  | list form element plain => simp [TypeDescriptor.scalarKind?, form]

end CrdCompiler.Resolver
