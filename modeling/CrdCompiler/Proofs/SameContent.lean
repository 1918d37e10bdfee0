import CrdCompiler.Proofs.Decoding
import CrdCompiler.Proofs.Keys
import CrdCompiler.Proofs.TwoRuns
import CrdCompiler.Schema.Definition

/-! # Schemas of the same content

Two schemas have the same content when they differ only by the order of their properties and by the
order and repetition of their required names, at any level.
-/

namespace CrdCompiler

inductive AdditionalProperties.Same {σ : Type} (related : σ → σ → Prop) :
    AdditionalProperties σ → AdditionalProperties σ → Prop where
  | absent : Same related .absent .absent
  | flag (allowed : Bool) : Same related (.flag allowed) (.flag allowed)
  | schema {left right : σ} (same : related left right) :
      Same related (.schema left) (.schema right)

namespace SchemaNode

inductive SameEntry (related : SchemaNode → SchemaNode → Prop) :
    String × SchemaNode → String × SchemaNode → Prop where
  | intro (name : String) {left right : SchemaNode} (same : related left right) :
      SameEntry related (name, left) (name, right)

/-- The nodes differ by the order of properties and required names alone, at every level. -/
inductive SameContent : SchemaNode → SchemaNode → Prop where
  | intro {left right : SchemaNode} {reordered : List (String × SchemaNode)}
      (order : left.properties.Perm reordered)
      (properties : List.Forall₂ (SameEntry SameContent) reordered right.properties)
      (additionalProperties : AdditionalProperties.Same SameContent left.additionalProperties
        right.additionalProperties)
      (items : Option.Rel SameContent left.items right.items)
      (required : ∀ name, name ∈ left.required ↔ name ∈ right.required)
      (keywords : right = { left with
        properties := right.properties, additionalProperties := right.additionalProperties,
        items := right.items, required := right.required }) :
      SameContent left right

end SchemaNode

inductive SchemaForm.SameContent : SchemaForm → SchemaForm → Prop where
  | scalar (kind : ScalarKind) : SameContent (.scalar kind) (.scalar kind)
  | fieldless : SameContent .fieldless .fieldless
  | record : SameContent .record .record
  | map {left right : SchemaNode} (same : left.SameContent right) :
      SameContent (.map left) (.map right)
  | list {left right : SchemaNode} (same : left.SameContent right) :
      SameContent (.list left) (.list right)
  | faulty (fault : ShapeFault) : SameContent (.faulty fault) (.faulty fault)

namespace SchemaNode.SameContent

variable {left right : SchemaNode}

theorem type_eq (same : left.SameContent right) : right.type = left.type := by
  cases same with
  | intro _ _ _ _ _ keywords =>
      have typed := congrArg SchemaNode.type keywords
      exact typed

theorem additionalProperties (same : left.SameContent right) :
    AdditionalProperties.Same SameContent left.additionalProperties right.additionalProperties := by
  cases same with
  | intro _ _ additionalProperties _ _ _ => exact additionalProperties

theorem items (same : left.SameContent right) :
    Option.Rel SameContent left.items right.items := by
  cases same with
  | intro _ _ _ items _ _ => exact items

theorem properties_eq_nil_iff (same : left.SameContent right) :
    right.properties = [] ↔ left.properties = [] := by
  cases same with
  | intro order properties _ _ _ _ =>
      rw [← List.length_eq_zero_iff, ← properties.length_eq, ← order.length_eq,
        List.length_eq_zero_iff]

theorem hasNoValueSchema_iff (same : left.SameContent right) :
    right.HasNoValueSchema ↔ left.HasNoValueSchema := by
  have related := same.additionalProperties
  unfold HasNoValueSchema
  generalize left.additionalProperties = leftValues at related ⊢
  generalize right.additionalProperties = rightValues at related ⊢
  cases related with
  | absent => rfl
  | flag allowed => rfl
  | schema same => simp

theorem exists_values (same : left.SameContent right) {values : SchemaNode}
    (valued : left.additionalProperties = .schema values) :
    ∃ values', right.additionalProperties = .schema values' ∧ values.SameContent values' := by
  have related := same.additionalProperties
  rw [valued] at related
  generalize right.additionalProperties = rightValues at related ⊢
  cases related with
  | schema same => exact ⟨_, rfl, same⟩

theorem exists_elements (same : left.SameContent right) {elements : SchemaNode}
    (itemized : left.items = some elements) :
    ∃ elements', right.items = some elements' ∧ elements.SameContent elements' := by
  have related := same.items
  rw [itemized] at related
  generalize right.items = rightItems at related ⊢
  cases related with
  | some same => exact ⟨_, rfl, same⟩

theorem items_eq_none (same : left.SameContent right) (itemless : left.items = none) :
    right.items = none := by
  have related := same.items
  rw [itemless] at related
  generalize right.items = rightItems at related ⊢
  cases related with
  | none => rfl

theorem additionalProperties_eq_flag (same : left.SameContent right) {allowed : Bool}
    (flag : left.additionalProperties = .flag allowed) :
    right.additionalProperties = .flag allowed := by
  have related := same.additionalProperties
  rw [flag] at related
  generalize right.additionalProperties = rightValues at related ⊢
  cases related with
  | flag allowed => rfl

theorem exists_declares (same : left.SameContent right) {form : SchemaForm}
    (declares : left.Declares form) :
    ∃ form', right.Declares form' ∧ form.SameContent form' := by
  have typeEq := same.type_eq
  cases declares with
  | scalar typed => exact ⟨_, .scalar (typeEq.trans typed), .scalar _⟩
  | fieldless typed closed empty =>
      exact ⟨_, .fieldless (typeEq.trans typed) (same.hasNoValueSchema_iff.mpr closed)
        (same.properties_eq_nil_iff.mpr empty), .fieldless⟩
  | record typed closed inhabited =>
      exact ⟨_, .record (typeEq.trans typed) (same.hasNoValueSchema_iff.mpr closed)
        (mt same.properties_eq_nil_iff.mp inhabited), .record⟩
  | map typed valued empty =>
      rcases same.exists_values valued with ⟨values', valued', sameValues⟩
      exact ⟨_, .map (typeEq.trans typed) valued' (same.properties_eq_nil_iff.mpr empty),
        .map sameValues⟩
  | list typed itemized =>
      rcases same.exists_elements itemized with ⟨elements', itemized', sameElements⟩
      exact ⟨_, .list (typeEq.trans typed) itemized', .list sameElements⟩
  | untyped typed => exact ⟨_, .untyped (typeEq.trans typed), .faulty _⟩
  | untypedValues typed opened =>
      exact ⟨_, .untypedValues (typeEq.trans typed) (same.additionalProperties_eq_flag opened),
        .faulty _⟩
  | fieldsAndValues typed valued inhabited =>
      rcases same.exists_values valued with ⟨values', valued', _⟩
      exact ⟨_, .fieldsAndValues (typeEq.trans typed) valued'
        (mt same.properties_eq_nil_iff.mp inhabited), .faulty _⟩
  | noItems typed itemless =>
      exact ⟨_, .noItems (typeEq.trans typed) (same.items_eq_none itemless), .faulty _⟩
  | unknownType typed unknown notObject notArray =>
      exact ⟨_, .unknownType (typeEq.trans typed) unknown notObject notArray, .faulty _⟩

theorem forms (same : left.SameContent right) : left.form.SameContent right.form := by
  rcases same.exists_declares left.declares_form with ⟨form, declares, sameForms⟩
  rw [form_eq_iff.mpr declares]
  exact sameForms

theorem derive_eq (same : left.SameContent right) (required : Bool) (kind? : Option ScalarKind)
    (path : SchemaPath) :
    Metadata.derive right required kind? path = Metadata.derive left required kind? path := by
  cases same with
  | intro _ _ _ _ _ keywords => exact Metadata.derive_eq_of_keywords keywords required kind? path

theorem lookup_related {entries entries' : List (String × SchemaNode)}
    (aligned : List.Forall₂ (SameEntry SameContent) entries entries') (name : String) :
    Option.Rel SameContent (entries.lookup name) (entries'.lookup name) := by
  induction aligned with
  | nil => exact .none
  | cons first remaining induction =>
      rcases first with ⟨key, same⟩
      rw [List.lookup_cons, List.lookup_cons]
      cases name == key with
      | true => exact .some same
      | false => exact induction

theorem property?_related (same : left.SameContent right) (distinct : left.HasDistinctKeys)
    (name : String) : Option.Rel SameContent (left.property? name) (right.property? name) := by
  cases same with
  | intro order properties _ _ _ _ =>
      rw [property?, lookup_eq_of_perm distinct.keys order]
      exact lookup_related properties name

theorem withoutProperties (same : left.SameContent right) (names : List String) :
    (left.withoutProperties names).SameContent (right.withoutProperties names) := by
  cases same with
  | intro order properties additionalProperties items required keywords =>
      refine .intro (order.filter _) ?_ additionalProperties items required ?_
      · apply List.rel_filter _ properties
        intro _ _ holds
        rcases holds with ⟨name, same⟩
        rfl
      · rw [keywords]
        rfl

end SchemaNode.SameContent

structure ResourceVersion.SameContent (left right : ResourceVersion) : Prop where
  name : left.name = right.name
  schema : Option.Rel SchemaNode.SameContent left.schema right.schema

/-- Definitions of one resource whose first versions have the same content. -/
structure CustomResourceDefinition.SameContent (left right : CustomResourceDefinition) : Prop where
  group : left.group = right.group
  names : left.names = right.names
  first : Option.Rel ResourceVersion.SameContent left.versions.head? right.versions.head?

/-- The schema of the first version has distinct keys. -/
def CustomResourceDefinition.HasDistinctKeys (definition : CustomResourceDefinition) : Prop :=
  ∀ version schema, definition.versions.head? = some version → version.schema = some schema →
    schema.HasDistinctKeys

end CrdCompiler
