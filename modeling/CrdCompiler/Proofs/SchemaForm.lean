import CrdCompiler.Resolver

/-! # Forms of schema nodes

The form of a node is what its own keywords declare, before anything below it is looked at. The
resolver decides by the form alone which nodes it visits next, so that statements about it are
proved by cases on the form and by induction along the nodes that a form names.
-/

namespace CrdCompiler

/-- What a node declares by its own keywords. -/
inductive SchemaForm where
  | scalar (kind : ScalarKind)
  | fieldless
  | record
  | map (values : SchemaNode)
  | list (elements : SchemaNode)
  | faulty (fault : ShapeFault)

namespace ScalarKind

theorem ofSchemaType?_schemaType (kind : ScalarKind) :
    ofSchemaType? kind.schemaType = some kind := by
  cases kind <;> decide

theorem ofSchemaType?_eq_some_iff {keyword : String} {kind : ScalarKind} :
    ofSchemaType? keyword = some kind ↔ keyword = kind.schemaType := by
  constructor
  · intro found
    have named := List.find?_some found
    simpa using (of_decide_eq_true named).symm
  · intro equal
    cases equal
    exact ofSchemaType?_schemaType kind

@[simp] theorem ofSchemaType?_object : ofSchemaType? "object" = none := by decide

@[simp] theorem ofSchemaType?_array : ofSchemaType? "array" = none := by decide

end ScalarKind

namespace SchemaNode

/-- The node has no schema for values under other names: the keyword is absent or `false`. -/
def HasNoValueSchema (node : SchemaNode) : Prop :=
  node.additionalProperties = .absent ∨ node.additionalProperties = .flag false

def form (node : SchemaNode) : SchemaForm :=
  match node.type with
  | none => .faulty .untyped
  | some keyword =>
    match ScalarKind.ofSchemaType? keyword with
    | some kind => .scalar kind
    | none =>
      if keyword = "object" then
        match node.additionalProperties with
        | .flag true => .faulty .untypedValues
        | .schema values =>
          if node.properties.isEmpty then .map values else .faulty .fieldsAndValues
        | _ => if node.properties.isEmpty then .fieldless else .record
      else if keyword = "array" then
        match node.items with
        | none => .faulty .noItems
        | some elements => .list elements
      else .faulty (.unknownType keyword)

/-! ## Keywords of each form -/

inductive Declares (node : SchemaNode) : SchemaForm → Prop where
  | scalar {kind : ScalarKind} (typed : node.type = some kind.schemaType) :
      node.Declares (.scalar kind)
  | fieldless (typed : node.type = some "object") (closed : node.HasNoValueSchema)
      (empty : node.properties = []) : node.Declares .fieldless
  | record (typed : node.type = some "object") (closed : node.HasNoValueSchema)
      (inhabited : node.properties ≠ []) : node.Declares .record
  | map {values : SchemaNode} (typed : node.type = some "object")
      (valued : node.additionalProperties = .schema values) (empty : node.properties = []) :
      node.Declares (.map values)
  | list {elements : SchemaNode} (typed : node.type = some "array")
      (itemized : node.items = some elements) : node.Declares (.list elements)
  | untyped (typed : node.type = none) : node.Declares (.faulty .untyped)
  | untypedValues (typed : node.type = some "object")
      (opened : node.additionalProperties = .flag true) : node.Declares (.faulty .untypedValues)
  | fieldsAndValues {values : SchemaNode} (typed : node.type = some "object")
      (valued : node.additionalProperties = .schema values) (inhabited : node.properties ≠ []) :
      node.Declares (.faulty .fieldsAndValues)
  | noItems (typed : node.type = some "array") (itemless : node.items = none) :
      node.Declares (.faulty .noItems)
  | unknownType {keyword : String} (typed : node.type = some keyword)
      (unknown : ScalarKind.ofSchemaType? keyword = none) (notObject : keyword ≠ "object")
      (notArray : keyword ≠ "array") : node.Declares (.faulty (.unknownType keyword))

/-- An object's form depends on its values first and on its properties then. -/
theorem declares_form_of_object {node : SchemaNode} (typed : node.type = some "object") :
    node.Declares node.form := by
  have objectForm : node.form = match node.additionalProperties with
      | .flag true => .faulty .untypedValues
      | .schema values =>
        if node.properties.isEmpty then .map values else .faulty .fieldsAndValues
      | _ => if node.properties.isEmpty then .fieldless else .record := by
    simp [form, typed]
  rw [objectForm]
  cases valued : node.additionalProperties with
  | absent =>
      by_cases empty : node.properties = []
      · simpa [empty] using Declares.fieldless typed (.inl valued) empty
      · simpa [empty] using Declares.record typed (.inl valued) empty
  | flag allowed =>
      cases allowed with
      | true => exact .untypedValues typed valued
      | false =>
          by_cases empty : node.properties = []
          · simpa [empty] using Declares.fieldless typed (.inr valued) empty
          · simpa [empty] using Declares.record typed (.inr valued) empty
  | schema values =>
      by_cases empty : node.properties = []
      · simpa [empty] using Declares.map typed valued empty
      · simpa [empty] using Declares.fieldsAndValues typed valued empty

theorem declares_form (node : SchemaNode) : node.Declares node.form := by
  cases typed : node.type with
  | none => simpa [form, typed] using Declares.untyped typed
  | some keyword =>
      cases scalar : ScalarKind.ofSchemaType? keyword with
      | some kind =>
          rw [ScalarKind.ofSchemaType?_eq_some_iff.mp scalar] at typed
          simpa [form, typed, ScalarKind.ofSchemaType?_schemaType] using Declares.scalar typed
      | none =>
          by_cases isObject : keyword = "object"
          · subst keyword
            exact declares_form_of_object typed
          by_cases isArray : keyword = "array"
          · subst keyword
            cases itemized : node.items with
            | none => simpa [form, typed, itemized] using Declares.noItems typed itemized
            | some elements => simpa [form, typed, itemized] using Declares.list typed itemized
          simpa [form, typed, scalar, isObject, isArray] using
            Declares.unknownType typed scalar isObject isArray

theorem form_eq_iff {node : SchemaNode} {form : SchemaForm} :
    node.form = form ↔ node.Declares form := by
  constructor
  · intro equal
    cases equal
    exact node.declares_form
  · intro declares
    cases declares with
    | scalar typed => simp [SchemaNode.form, typed, ScalarKind.ofSchemaType?_schemaType]
    | fieldless typed closed empty => rcases closed with closed | closed <;>
        simp [SchemaNode.form, typed, closed, empty]
    | record typed closed inhabited => rcases closed with closed | closed <;>
        simp [SchemaNode.form, typed, closed, inhabited]
    | map typed valued empty => simp [SchemaNode.form, typed, valued, empty]
    | list typed itemized => simp [SchemaNode.form, typed, itemized]
    | untyped typed => simp [SchemaNode.form, typed]
    | untypedValues typed opened => simp [SchemaNode.form, typed, opened]
    | fieldsAndValues typed valued inhabited =>
        simp [SchemaNode.form, typed, valued, inhabited]
    | noItems typed itemless => simp [SchemaNode.form, typed, itemless]
    | unknownType typed unknown notObject notArray =>
        simp [SchemaNode.form, typed, unknown, notObject, notArray]

theorem form_eq_scalar_iff {node : SchemaNode} {kind : ScalarKind} :
    node.form = .scalar kind ↔ node.type = some kind.schemaType := by
  rw [form_eq_iff]
  constructor
  · intro holds
    rcases holds with ⟨typed⟩
    exact typed
  · exact .scalar

/-! ## Induction along forms -/

theorem sizeOf_property_lt {node child : SchemaNode} {name : String}
    (member : (name, child) ∈ node.properties) : sizeOf child < sizeOf node := by
  have entry := List.sizeOf_lt_of_mem member
  cases node
  simp only [Prod.mk.sizeOf_spec, mk.sizeOf_spec] at entry ⊢
  omega

theorem sizeOf_values_lt {node values : SchemaNode}
    (valued : node.additionalProperties = .schema values) : sizeOf values < sizeOf node := by
  cases node
  cases valued
  simp only [mk.sizeOf_spec, AdditionalProperties.schema.sizeOf_spec]
  omega

theorem sizeOf_elements_lt {node elements : SchemaNode} (itemized : node.items = some elements) :
    sizeOf elements < sizeOf node := by
  cases node
  cases itemized
  simp only [mk.sizeOf_spec, Option.some.sizeOf_spec]
  omega

/-- Induction along the nodes that a form names: a record goes on to its properties, a map to its
values and a list to its elements. -/
theorem formInduction {motive : SchemaNode → Prop}
    (scalar : ∀ node kind, node.form = .scalar kind → motive node)
    (fieldless : ∀ node, node.form = .fieldless → motive node)
    (record : ∀ node, node.form = .record →
      (∀ name child, (name, child) ∈ node.properties → motive child) → motive node)
    (map : ∀ node values, node.form = .map values → motive values → motive node)
    (list : ∀ node elements, node.form = .list elements → motive elements → motive node)
    (faulty : ∀ node fault, node.form = .faulty fault → motive node)
    (node : SchemaNode) : motive node := by
  have continues (below : SchemaNode) (smaller : sizeOf below < sizeOf node) : motive below :=
    formInduction scalar fieldless record map list faulty below
  cases form : node.form with
  | scalar kind => exact scalar node kind form
  | fieldless => exact fieldless node form
  | record =>
      apply record node form
      intro name child member
      exact continues child (sizeOf_property_lt member)
  | map values =>
      cases form_eq_iff.mp form with
      | map typed valued empty =>
          exact map node values form (continues values (sizeOf_values_lt valued))
  | list elements =>
      cases form_eq_iff.mp form with
      | list typed itemized =>
          exact list node elements form (continues elements (sizeOf_elements_lt itemized))
  | faulty fault => exact faulty node fault form
termination_by sizeOf node

end SchemaNode

end CrdCompiler
