import CrdCompiler.Proofs.Decoding
import CrdCompiler.Proofs.Keys

/-! # Unread keywords

Which keywords of a node are read depends on its type and on where it stands. The others may be left
out, at every node of a schema: the properties are the same, or the error is.
-/

namespace CrdCompiler

namespace SchemaNode

open Resolver (Position)

def scalarKind? (node : SchemaNode) : Option ScalarKind :=
  node.type.bind ScalarKind.ofSchemaType?

/-! ## Leaving keywords out -/

/-- Without a closing `false`, which says no more than an absent keyword. -/
def unclosed (node : SchemaNode) : SchemaNode :=
  { node with
    additionalProperties :=
      match node.additionalProperties with
      | .flag false => .absent
      | others => others }

def requiringDeclared (node : SchemaNode) : SchemaNode :=
  { node with
    required := node.required.filter fun name => (node.properties.map Prod.fst).contains name }

/-- Without the keywords about nodes below that the type of the node leaves unread: a scalar has no
nodes below, an array has its items alone, and an object has no items. -/
def withoutUnreadNodes (node : SchemaNode) : SchemaNode :=
  let node := node.unclosed.requiringDeclared
  if node.scalarKind?.isSome then
    { node with properties := [], additionalProperties := .absent, items := none, required := [] }
  else if node.type = some "array" then
    { node with properties := [], additionalProperties := .absent, required := [] }
  else if node.type = some "object" then { node with items := none }
  else node

def withoutRules (node : SchemaNode) : SchemaNode :=
  { node with
    default := none, enum := [], minimum := none, maximum := none, exclusiveMinimum := false,
    exclusiveMaximum := false, minLength := none, maxLength := none, pattern := none,
    format := none }

def withRulesOfTexts (kind : ScalarKind) (node : SchemaNode) : SchemaNode :=
  if kind = .string then
    { node with
      pattern := node.pattern.filter fun pattern => pattern ≠ ""
      format := node.format.filter fun format => format = "byte" ∨ format = "date-time" }
  else { node with minLength := none, maxLength := none, pattern := none, format := none }

def withRulesOfNumbers (kind : ScalarKind) (node : SchemaNode) : SchemaNode :=
  if kind = .int64 ∨ kind = .float64 then
    { node with
      exclusiveMinimum := node.exclusiveMinimum && node.minimum.isSome
      exclusiveMaximum := node.exclusiveMaximum && node.maximum.isSome }
  else
    { node with
      minimum := none, maximum := none, exclusiveMinimum := false, exclusiveMaximum := false }

/-- Without the keywords about values that are left unread where the node stands: an element has
neither description nor rules, an object or array has no rules, and a scalar has those of its
kind. -/
def withoutUnreadRules (node : SchemaNode) : Position → SchemaNode
  | .element => { node.withoutRules with description := none }
  | .property =>
    match node.scalarKind? with
    | some kind => (node.withRulesOfTexts kind).withRulesOfNumbers kind
    | none =>
      if node.type = some "object" ∨ node.type = some "array" then node.withoutRules else node

def withoutUnread (node : SchemaNode) (position : Position) : SchemaNode :=
  node.withoutUnreadNodes.withoutUnreadRules position

mutual

def prunedBelow : SchemaNode → SchemaNode
  | node@{ properties, additionalProperties, items, .. } =>
    { node with
      properties := prunedProperties properties
      additionalProperties := prunedValues additionalProperties
      items := prunedItems items }

def prunedProperties : List (String × SchemaNode) → List (String × SchemaNode)
  | [] => []
  | (name, node) :: rest =>
    (name, node.prunedBelow.withoutUnread .property) :: prunedProperties rest

def prunedValues : AdditionalProperties SchemaNode → AdditionalProperties SchemaNode
  | .absent => .absent
  | .flag allowed => .flag allowed
  | .schema node => .schema (node.prunedBelow.withoutUnread .element)

def prunedItems : Option SchemaNode → Option SchemaNode
  | none => none
  | some node => some (node.prunedBelow.withoutUnread .element)

end

def pruned (node : SchemaNode) (position : Position) : SchemaNode :=
  node.prunedBelow.withoutUnread position

/-- A list that has a default, requires a name, and describes its items. -/
example :
    let tags : SchemaNode := {
      type := some "array"
      required := ["name"]
      default := some .null
      items := some { type := some "string", description := some "a tag", minLength := some 1 } }
    tags.pruned .property =
      { type := some "array", items := some { type := some "string" } } := rfl

/-! ## Metadata without unread keywords -/

theorem textRules_withRulesOfTexts (node : SchemaNode) :
    Metadata.textRules (node.withRulesOfTexts .string) = Metadata.textRules node := by
  have byte : (node.format.filter fun format => format = "byte" ∨ format = "date-time") =
      some "byte" ↔ node.format = some "byte" := by
    simp [Option.filter_eq_some_iff]
  have dateTime : (node.format.filter fun format => format = "byte" ∨ format = "date-time") =
      some "date-time" ↔ node.format = some "date-time" := by
    simp [Option.filter_eq_some_iff]
  simp only [Metadata.textRules, withRulesOfTexts, if_pos, Option.filter_filter, byte, dateTime,
    Bool.and_self]

theorem numberRules_withRulesOfNumbers (node : SchemaNode) {kind : ScalarKind}
    (numeric : kind = .int64 ∨ kind = .float64) (path : SchemaPath) :
    Metadata.numberRules (node.withRulesOfNumbers kind) kind path =
      Metadata.numberRules node kind path := by
  rw [withRulesOfNumbers, if_pos numeric]
  unfold Metadata.numberRules
  cases node.minimum <;> cases node.maximum <;> simp

theorem kindRules_withRules (node : SchemaNode) (kind : ScalarKind) (path : SchemaPath) :
    Metadata.kindRules ((node.withRulesOfTexts kind).withRulesOfNumbers kind) kind path =
      Metadata.kindRules node kind path := by
  cases kind with
  | string => exact congrArg Except.ok (textRules_withRulesOfTexts node)
  | int64 => exact numberRules_withRulesOfNumbers (node.withRulesOfTexts .int64) (.inl rfl) path
  | float64 => exact numberRules_withRulesOfNumbers (node.withRulesOfTexts .float64) (.inr rfl) path
  | bool => rfl

theorem withRules_others (node : SchemaNode) (kind : ScalarKind) :
    let kept := (node.withRulesOfTexts kind).withRulesOfNumbers kind
    kept.description = node.description ∧ kept.default = node.default ∧ kept.enum = node.enum := by
  unfold withRulesOfNumbers withRulesOfTexts
  split <;> split <;> exact ⟨rfl, rfl, rfl⟩

theorem derive_withRules (node : SchemaNode) (required : Bool) (kind : ScalarKind)
    (path : SchemaPath) :
    Metadata.derive ((node.withRulesOfTexts kind).withRulesOfNumbers kind) required (some kind)
      path = Metadata.derive node required (some kind) path := by
  rcases withRules_others node kind with ⟨description, default, enum⟩
  simp only [Metadata.derive, Metadata.validatorsOf, Metadata.defaultOf, Metadata.enumRules,
    description, default, enum, kindRules_withRules]

theorem derive_compound_congr {left right : SchemaNode}
    (description : left.description = right.description) (required : Bool) (path : SchemaPath) :
    Metadata.derive left required none path = Metadata.derive right required none path := by
  rw [Metadata.derive, Metadata.derive, description]

theorem derive_withoutUnreadRules (node : SchemaNode) (required : Bool) (path : SchemaPath) :
    Metadata.derive (node.withoutUnreadRules .property) required node.scalarKind? path =
      Metadata.derive node required node.scalarKind? path := by
  rw [withoutUnreadRules]
  cases node.scalarKind? with
  | none =>
      apply derive_compound_congr
      dsimp only
      split <;> rfl
  | some kind => exact derive_withRules node required kind path

/-! ## Forms without unread keywords -/

structure SameNodes (left right : SchemaNode) : Prop where
  type : left.type = right.type
  properties : left.properties = right.properties
  additionalProperties : left.additionalProperties = right.additionalProperties
  items : left.items = right.items
  required : left.required = right.required

theorem SameNodes.form_eq {left right : SchemaNode} (same : SameNodes left right) :
    left.form = right.form := by
  unfold form
  rw [same.type, same.properties, same.additionalProperties, same.items]

theorem sameNodes_withoutUnreadRules (node : SchemaNode) (position : Position) :
    SameNodes (node.withoutUnreadRules position) node := by
  cases position with
  | element => exact ⟨rfl, rfl, rfl, rfl, rfl⟩
  | property =>
      rw [withoutUnreadRules]
      cases node.scalarKind? with
      | none =>
          dsimp only
          split <;> exact ⟨rfl, rfl, rfl, rfl, rfl⟩
      | some kind =>
          dsimp only
          unfold withRulesOfNumbers withRulesOfTexts
          split <;> split <;> exact ⟨rfl, rfl, rfl, rfl, rfl⟩

theorem withoutUnreadNodes_scalar {node : SchemaNode} {kind : ScalarKind}
    (typed : node.type = some kind.schemaType) :
    node.withoutUnreadNodes = { node with
      properties := [], additionalProperties := .absent, items := none, required := [] } := by
  simp [withoutUnreadNodes, unclosed, requiringDeclared, scalarKind?, typed,
    ScalarKind.ofSchemaType?_schemaType]

theorem withoutUnreadNodes_array {node : SchemaNode} (typed : node.type = some "array") :
    node.withoutUnreadNodes =
      { node with properties := [], additionalProperties := .absent, required := [] } := by
  simp [withoutUnreadNodes, unclosed, requiringDeclared, scalarKind?, typed]

theorem withoutUnreadNodes_object {node : SchemaNode} (typed : node.type = some "object") :
    node.withoutUnreadNodes = { node.unclosed.requiringDeclared with items := none } := by
  simp [withoutUnreadNodes, unclosed, requiringDeclared, scalarKind?, typed]

theorem hasNoValueSchema_unclosed {node : SchemaNode} (closed : node.HasNoValueSchema) :
    node.unclosed.HasNoValueSchema := by
  rcases closed with closed | closed <;> exact .inl (by simp [unclosed, closed])

theorem values_unclosed {node values : SchemaNode}
    (valued : node.additionalProperties = .schema values) :
    node.unclosed.additionalProperties = .schema values := by
  simp [unclosed, valued]

theorem form_withoutUnreadNodes (node : SchemaNode) :
    node.withoutUnreadNodes.form = node.form := by
  have declares := node.declares_form
  generalize node.form = form at declares ⊢
  rw [form_eq_iff]
  cases declares with
  | scalar typed =>
      rw [withoutUnreadNodes_scalar typed]
      exact .scalar typed
  | fieldless typed closed empty =>
      rw [withoutUnreadNodes_object typed]
      exact .fieldless typed (hasNoValueSchema_unclosed closed) empty
  | record typed closed inhabited =>
      rw [withoutUnreadNodes_object typed]
      exact .record typed (hasNoValueSchema_unclosed closed) inhabited
  | map typed valued empty =>
      rw [withoutUnreadNodes_object typed]
      exact .map typed (values_unclosed valued) empty
  | list typed itemized =>
      rw [withoutUnreadNodes_array typed]
      exact .list typed itemized
  | untyped typed =>
      exact .untyped (by simp [withoutUnreadNodes, unclosed, requiringDeclared, scalarKind?, typed])
  | untypedValues typed opened =>
      rw [withoutUnreadNodes_object typed]
      exact .untypedValues typed (by simp [unclosed, requiringDeclared, opened])
  | fieldsAndValues typed valued inhabited =>
      rw [withoutUnreadNodes_object typed]
      exact .fieldsAndValues typed (values_unclosed valued) inhabited
  | noItems typed itemless =>
      rw [withoutUnreadNodes_array typed]
      exact .noItems typed itemless
  | unknownType typed unknown notObject notArray =>
      refine .unknownType ?_ unknown notObject notArray
      simp [withoutUnreadNodes, unclosed, requiringDeclared, scalarKind?, typed, unknown, notObject,
        notArray]

theorem form_withoutUnread (node : SchemaNode) (position : Position) :
    (node.withoutUnread position).form = node.form := by
  rw [withoutUnread, (sameNodes_withoutUnreadRules _ position).form_eq, form_withoutUnreadNodes]

end SchemaNode

def AdditionalProperties.map {σ τ : Type} (change : σ → τ) :
    AdditionalProperties σ → AdditionalProperties τ
  | .absent => .absent
  | .flag allowed => .flag allowed
  | .schema node => .schema (change node)

def SchemaForm.mapElements (change : SchemaNode → SchemaNode) : SchemaForm → SchemaForm
  | .map values => .map (change values)
  | .list elements => .list (change elements)
  | form => form

namespace SchemaNode

open Resolver (Position)

theorem prunedProperties_eq_map (entries : List (String × SchemaNode)) :
    prunedProperties entries = entries.map fun entry => (entry.1, entry.2.pruned .property) := by
  induction entries with
  | nil => rfl
  | cons entry rest induction => rw [prunedProperties, induction, List.map_cons, pruned]

theorem prunedBelow_eq (node : SchemaNode) :
    node.prunedBelow = { node with
      properties := node.properties.map fun entry => (entry.1, entry.2.pruned .property)
      additionalProperties := node.additionalProperties.map (·.pruned .element)
      items := node.items.map (·.pruned .element) } := by
  have values (others : AdditionalProperties SchemaNode) :
      prunedValues others = others.map (·.pruned .element) := by
    cases others <;> rfl
  have elements (items : Option SchemaNode) :
      prunedItems items = items.map (·.pruned .element) := by
    cases items <;> rfl
  cases node
  rw [prunedBelow, prunedProperties_eq_map, values, elements]

theorem form_prunedBelow (node : SchemaNode) :
    node.prunedBelow.form = node.form.mapElements (·.pruned .element) := by
  have sameType : node.prunedBelow.type = node.type := by rw [prunedBelow_eq]
  have empty_iff : node.prunedBelow.properties = [] ↔ node.properties = [] := by
    rw [prunedBelow_eq, List.map_eq_nil_iff]
  have values : node.prunedBelow.additionalProperties =
      node.additionalProperties.map (·.pruned .element) := by rw [prunedBelow_eq]
  have elements : node.prunedBelow.items = node.items.map (·.pruned .element) := by
    rw [prunedBelow_eq]
  have closed' (closed : node.HasNoValueSchema) : node.prunedBelow.HasNoValueSchema := by
    rw [HasNoValueSchema, values]
    rcases closed with closed | closed
    · exact .inl (by rw [closed, AdditionalProperties.map])
    · exact .inr (by rw [closed, AdditionalProperties.map])
  have declares := node.declares_form
  generalize node.form = form at declares ⊢
  rw [form_eq_iff]
  cases declares with
  | scalar typed => exact .scalar (sameType.trans typed)
  | fieldless typed closed empty =>
      exact .fieldless (sameType.trans typed) (closed' closed) (empty_iff.mpr empty)
  | record typed closed inhabited =>
      exact .record (sameType.trans typed) (closed' closed) (mt empty_iff.mp inhabited)
  | map typed valued empty =>
      rw [valued, AdditionalProperties.map] at values
      exact .map (sameType.trans typed) values (empty_iff.mpr empty)
  | list typed itemized =>
      rw [itemized, Option.map_some] at elements
      exact .list (sameType.trans typed) elements
  | untyped typed => exact .untyped (sameType.trans typed)
  | untypedValues typed opened =>
      rw [opened, AdditionalProperties.map] at values
      exact .untypedValues (sameType.trans typed) values
  | fieldsAndValues typed valued inhabited =>
      rw [valued, AdditionalProperties.map] at values
      exact .fieldsAndValues (sameType.trans typed) values (mt empty_iff.mp inhabited)
  | noItems typed itemless =>
      rw [itemless, Option.map_none] at elements
      exact .noItems (sameType.trans typed) elements
  | unknownType typed unknown notObject notArray =>
      exact .unknownType (sameType.trans typed) unknown notObject notArray

theorem form_pruned (node : SchemaNode) (position : Position) :
    (node.pruned position).form = node.form.mapElements (·.pruned .element) := by
  rw [pruned, form_withoutUnread, form_prunedBelow]

/-! ## What is left of a node -/

theorem withoutUnreadNodes_type (node : SchemaNode) : node.withoutUnreadNodes.type = node.type := by
  unfold withoutUnreadNodes
  dsimp only
  split
  · rfl
  split
  · rfl
  split <;> rfl

theorem derive_withoutUnreadNodes (node : SchemaNode) (required : Bool) (kind? : Option ScalarKind)
    (path : SchemaPath) :
    Metadata.derive node.withoutUnreadNodes required kind? path =
      Metadata.derive node required kind? path := by
  apply Metadata.derive_eq_of_keywords
  unfold withoutUnreadNodes
  dsimp only
  split
  · rfl
  split
  · rfl
  split <;> rfl

theorem derive_prunedBelow (node : SchemaNode) (required : Bool) (kind? : Option ScalarKind)
    (path : SchemaPath) :
    Metadata.derive node.prunedBelow required kind? path =
      Metadata.derive node required kind? path := by
  apply Metadata.derive_eq_of_keywords
  rw [prunedBelow_eq]

theorem derive_pruned (node : SchemaNode) (required : Bool) (path : SchemaPath) :
    Metadata.derive (node.pruned .property) required node.scalarKind? path =
      Metadata.derive node required node.scalarKind? path := by
  have sameKind : node.prunedBelow.withoutUnreadNodes.scalarKind? = node.scalarKind? := by
    rw [scalarKind?, withoutUnreadNodes_type, prunedBelow_eq, scalarKind?]
  rw [pruned, withoutUnread, ← sameKind, derive_withoutUnreadRules, derive_withoutUnreadNodes,
    derive_prunedBelow]

/-- The fields of a record that are left: all of them, each without unread keywords, and as required
names those that name a field. -/
structure FieldsPruned (node sparse : SchemaNode) : Prop where
  properties : sparse.properties =
    node.properties.map fun entry => (entry.1, entry.2.pruned .property)
  required : sparse.required =
    node.required.filter fun name => (node.properties.map Prod.fst).contains name

theorem fieldsPruned_requiringDeclared (node : SchemaNode) :
    FieldsPruned node node.prunedBelow.requiringDeclared := by
  rw [prunedBelow_eq]
  refine ⟨rfl, ?_⟩
  simp [requiringDeclared, Function.comp_def]

theorem fieldsPruned_pruned {node : SchemaNode} (typed : node.type = some "object")
    (position : Position) : FieldsPruned node (node.pruned position) := by
  have sameType : node.prunedBelow.type = some "object" := by rw [prunedBelow_eq, typed]
  have same := sameNodes_withoutUnreadRules node.prunedBelow.withoutUnreadNodes position
  rw [withoutUnreadNodes_object sameType] at same
  have left := fieldsPruned_requiringDeclared node
  rw [pruned, withoutUnread, withoutUnreadNodes_object sameType]
  exact ⟨same.properties.trans left.properties, same.required.trans left.required⟩

/-- The schema without any keyword that is not read: at the node itself required names that no
property has, and below it all unread keywords. -/
def withoutUnreadKeywords (node : SchemaNode) : SchemaNode :=
  node.prunedBelow.requiringDeclared

theorem form_withoutUnreadKeywords (node : SchemaNode) :
    node.withoutUnreadKeywords.form = node.form.mapElements (·.pruned .element) := by
  rw [← form_prunedBelow]
  rfl

end SchemaNode

namespace Resolver

open SchemaNode

variable {resolver : Resolver} {path : SchemaPath} {depth : Nat}

theorem Shaped.scalarKind?_eq {position : Position} {node : SchemaNode} {type : TypeDescriptor}
    {children : List Property} (shaped : resolver.Shaped path depth position node type children) :
    type.scalarKind? = node.scalarKind? := by
  ext kind
  rw [shaped.scalarKind?_eq_some_iff, scalarKind?, Option.bind_eq_some_iff]
  constructor
  · intro typed
    exact ⟨_, typed, ScalarKind.ofSchemaType?_schemaType kind⟩
  · intro holds
    rcases holds with ⟨keyword, typed, found⟩
    rw [typed, ScalarKind.ofSchemaType?_eq_some_iff.mp found]

theorem fieldOf_pruned {required : List String} {keys : List String} {name : String}
    (declared : name ∈ keys) {child : SchemaNode}
    (shapes : resolver.typeOf .property (path.child name) depth (child.pruned .property) =
      resolver.typeOf .property (path.child name) depth child) :
    resolver.fieldOf (required.filter fun name => keys.contains name) path depth
        (name, child.pruned .property) =
      resolver.fieldOf required path depth (name, child) := by
  have sameRequired : (required.filter fun name => keys.contains name).contains name =
      required.contains name := by simp [declared]
  unfold fieldOf
  rw [shapes]
  cases shaped : resolver.typeOf .property (path.child name) depth child with
  | error fault => simp only [Outcome.error_bind]
  | ok shape =>
      have sameKind := (typeOf_eq_ok.mp shaped).scalarKind?_eq
      simp only [Outcome.ok_bind, sameRequired, sameKind, derive_pruned]

theorem recordOf_pruned {node sparse : SchemaNode} (left : FieldsPruned node sparse)
    (shapes : ∀ name child, (name, child) ∈ node.properties →
      resolver.typeOf .property (path.child name) depth (child.pruned .property) =
        resolver.typeOf .property (path.child name) depth child) :
    resolver.recordOf path depth sparse = resolver.recordOf path depth node := by
  have fields : sparse.properties.mapM (resolver.fieldOf sparse.required path depth) =
      node.properties.mapM (resolver.fieldOf node.required path depth) := by
    rw [left.properties, left.required, List.mapM_map]
    apply Outcome.mapM_congr
    intro entry member
    exact fieldOf_pruned (List.mem_map_of_mem member) (shapes entry.1 entry.2 member)
  rw [recordOf, recordOf, fields]

theorem typeOf_of_form {position : Position} {node sparse : SchemaNode}
    (form : sparse.form = node.form.mapElements (·.pruned .element))
    (fields : node.form = .record →
      resolver.recordOf path (depth + 1) sparse = resolver.recordOf path (depth + 1) node)
    (values : ∀ inner, node.form = .map inner →
      resolver.typeOf .element path depth (inner.pruned .element) =
        resolver.typeOf .element path depth inner)
    (elements : ∀ inner, node.form = .list inner →
      resolver.typeOf .element path depth (inner.pruned .element) =
        resolver.typeOf .element path depth inner) :
    resolver.typeOf position path depth sparse = resolver.typeOf position path depth node := by
  rw [typeOf_eq, typeOf_eq, form]
  generalize node.form = nodeForm at fields values elements
  cases nodeForm with
  | scalar kind => rfl
  | fieldless => rfl
  | record => simp only [SchemaForm.mapElements, fields]
  | map inner => simp only [SchemaForm.mapElements, values inner rfl]
  | list inner => simp only [SchemaForm.mapElements, elements inner rfl]
  | faulty fault => rfl

theorem typeOf_pruned {position : Position} {path : SchemaPath} {depth : Nat} (node : SchemaNode)
    (stands : Position) :
    resolver.typeOf position path depth (node.pruned stands) =
      resolver.typeOf position path depth node := by
  apply typeOf_of_form (form_pruned node stands)
  · intro form
    cases form_eq_iff.mp form with
    | record typed closed inhabited =>
        apply recordOf_pruned (fieldsPruned_pruned typed stands)
        intro name child member
        exact typeOf_pruned child .property
  · intro inner form
    cases form_eq_iff.mp form with
    | map typed valued empty => exact typeOf_pruned inner .element
  · intro inner form
    cases form_eq_iff.mp form with
    | list typed itemized => exact typeOf_pruned inner .element
termination_by sizeOf node
decreasing_by
  · exact sizeOf_property_lt member
  · exact sizeOf_values_lt valued
  · exact sizeOf_elements_lt itemized

/-- Unread keywords do not count: without them a schema gives the same properties and the same
shape, or the same error. -/
theorem unread_keywords_inert (resolver : Resolver) (node : SchemaNode) (path : SchemaPath) :
    resolver.resolveProperties node.withoutUnreadKeywords path =
        resolver.resolveProperties node path ∧
      resolver.resolveType node.withoutUnreadKeywords path = resolver.resolveType node path := by
  have left := fieldsPruned_requiringDeclared node
  constructor
  · rw [resolveProperties_eq, resolveProperties_eq]
    apply recordOf_pruned left
    intro name child _
    exact typeOf_pruned child .property
  · apply typeOf_of_form (form_withoutUnreadKeywords node)
    · intro _
      apply recordOf_pruned left
      intro name child _
      exact typeOf_pruned child .property
    · intro inner _
      exact typeOf_pruned inner .element
    · intro inner _
      exact typeOf_pruned inner .element

end Resolver

end CrdCompiler
