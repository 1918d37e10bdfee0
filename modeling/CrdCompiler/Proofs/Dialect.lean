import CrdCompiler.Assembly
import CrdCompiler.Proofs.SchemaForm
import Mathlib.Algebra.Ring.Int.Defs

/-! # The schema dialect

The dialect says which schemas are compiled, by rules on the schemas alone. A level of nesting is
counted wherever fields are entered, and nowhere else; only an element of a collection may be an
object without fields.
-/

namespace CrdCompiler

namespace Dialect

/-- Raw values that have a literal of a kind. An integer is written as one and has 64 bits. -/
inductive Decodes : ScalarKind → Json → Prop where
  | string (text : String) : Decodes .string (.string text)
  | int64 (number : Integer64) (fits : number.value < 2 ^ 63) :
      Decodes .int64 (.number (.integer number))
  | float64 (number : JsonNumber) : Decodes .float64 (.number number)
  | bool (value : Bool) : Decodes .bool (.bool value)

def BoundFits (kind : ScalarKind) (value : Binary64) : Prop :=
  ∃ number : FiniteBinary64, value = .finite number ∧
    (kind = .int64 → ∃ whole : Int, number.toRat = whole ∧ -2 ^ 63 ≤ whole ∧ whole < 2 ^ 63)

structure ValuesFit (kind : ScalarKind) (node : SchemaNode) : Prop where
  default : ∀ raw, node.default = some raw → Decodes kind raw
  enum : ∀ raw ∈ node.enum, Decodes kind raw
  minimum : kind = .int64 ∨ kind = .float64 → ∀ minimum, node.minimum = some minimum →
    BoundFits kind (minimum.add (Metadata.shift node.exclusiveMinimum))
  maximum : kind = .int64 ∨ kind = .float64 → ∀ maximum, node.maximum = some maximum →
    BoundFits kind (maximum.sub (Metadata.shift node.exclusiveMaximum))

def Values (node : SchemaNode) : Prop :=
  ∀ kind : ScalarKind, node.type = some kind.schemaType → ValuesFit kind node

mutual

/-- Nodes whose properties may be entered at a depth. -/
inductive Fields (limit : Nat) : SchemaNode → Nat → Prop where
  | intro {node : SchemaNode} {depth : Nat} (shallow : depth < limit)
      (shapes : ∀ name child, (name, child) ∈ node.properties → Shape limit child depth)
      (values : ∀ name child, (name, child) ∈ node.properties → Values child) :
      Fields limit node depth

/-- Nodes that may stand under a name of their own. -/
inductive Shape (limit : Nat) : SchemaNode → Nat → Prop where
  | scalar {node : SchemaNode} {depth : Nat} {kind : ScalarKind}
      (typed : node.type = some kind.schemaType) : Shape limit node depth
  | record {node : SchemaNode} {depth : Nat} (typed : node.type = some "object")
      (closed : node.HasNoValueSchema) (inhabited : node.properties ≠ [])
      (fields : Fields limit node (depth + 1)) : Shape limit node depth
  | map {node values : SchemaNode} {depth : Nat} (typed : node.type = some "object")
      (valued : node.additionalProperties = .schema values) (empty : node.properties = [])
      (element : Element limit values depth) : Shape limit node depth
  | list {node elements : SchemaNode} {depth : Nat} (typed : node.type = some "array")
      (itemized : node.items = some elements) (element : Element limit elements depth) :
      Shape limit node depth

/-- Nodes that may stand as the values of a map or the items of a list. -/
inductive Element (limit : Nat) : SchemaNode → Nat → Prop where
  | scalar {node : SchemaNode} {depth : Nat} {kind : ScalarKind}
      (typed : node.type = some kind.schemaType) : Element limit node depth
  | fieldless {node : SchemaNode} {depth : Nat} (typed : node.type = some "object")
      (closed : node.HasNoValueSchema) (empty : node.properties = []) : Element limit node depth
  | record {node : SchemaNode} {depth : Nat} (typed : node.type = some "object")
      (closed : node.HasNoValueSchema) (fields : Fields limit node (depth + 1)) :
      Element limit node depth

end

structure Root (node : SchemaNode) : Prop where
  typed : node.type = some "object"
  closed : node.HasNoValueSchema

/-- Definitions whose first version has a schema with two subtrees whose fields, those that are
injected aside, may be entered. -/
inductive Definition (limit : Nat) (definition : CustomResourceDefinition) : Prop where
  | intro {version : ResourceVersion} {others : List ResourceVersion}
      {schema spec status : SchemaNode} (first : definition.versions = version :: others)
      (declared : version.schema = some schema)
      (specDeclared : schema.property? "spec" = some spec)
      (statusDeclared : schema.property? "status" = some status)
      (specRoot : Root spec) (statusRoot : Root status)
      (specFields : Fields limit (spec.withoutProperties Assembly.injectedSpecFields) 0)
      (statusFields : Fields limit (status.withoutProperties Assembly.injectedStatusFields) 0) :
      Definition limit definition

/-! ## Rules by forms -/

theorem shape_iff_form {limit : Nat} {node : SchemaNode} {depth : Nat} :
    Shape limit node depth ↔
      match node.form with
      | .scalar _ => True
      | .fieldless => False
      | .record => Fields limit node (depth + 1)
      | .map values => Element limit values depth
      | .list elements => Element limit elements depth
      | .faulty _ => False := by
  constructor
  · intro shape
    cases shape with
    | scalar typed =>
        rw [SchemaNode.form_eq_iff.mpr (.scalar typed)]
        trivial
    | record typed closed inhabited fields =>
        rwa [SchemaNode.form_eq_iff.mpr (.record typed closed inhabited)]
    | map typed valued empty element =>
        rwa [SchemaNode.form_eq_iff.mpr (.map typed valued empty)]
    | list typed itemized element =>
        rwa [SchemaNode.form_eq_iff.mpr (.list typed itemized)]
  · cases form : node.form with
    | scalar kind => exact fun _ => .scalar (SchemaNode.form_eq_scalar_iff.mp form)
    | fieldless => exact False.elim
    | record =>
        cases SchemaNode.form_eq_iff.mp form with
        | record typed closed inhabited => exact .record typed closed inhabited
    | map values =>
        cases SchemaNode.form_eq_iff.mp form with
        | map typed valued empty => exact .map typed valued empty
    | list elements =>
        cases SchemaNode.form_eq_iff.mp form with
        | list typed itemized => exact .list typed itemized
    | faulty fault => exact False.elim

theorem element_iff_form {limit : Nat} {node : SchemaNode} {depth : Nat} :
    Element limit node depth ↔
      match node.form with
      | .scalar _ => True
      | .fieldless => True
      | .record => Fields limit node (depth + 1)
      | _ => False := by
  constructor
  · intro element
    cases element with
    | scalar typed =>
        rw [SchemaNode.form_eq_iff.mpr (.scalar typed)]
        trivial
    | fieldless typed closed empty =>
        rw [SchemaNode.form_eq_iff.mpr (.fieldless typed closed empty)]
        trivial
    | record typed closed fields =>
        by_cases empty : node.properties = []
        · rw [SchemaNode.form_eq_iff.mpr (.fieldless typed closed empty)]
          trivial
        · rwa [SchemaNode.form_eq_iff.mpr (.record typed closed empty)]
  · cases form : node.form with
    | scalar kind => exact fun _ => .scalar (SchemaNode.form_eq_scalar_iff.mp form)
    | fieldless =>
        cases SchemaNode.form_eq_iff.mp form with
        | fieldless typed closed empty => exact fun _ => .fieldless typed closed empty
    | record =>
        cases SchemaNode.form_eq_iff.mp form with
        | record typed closed inhabited => exact .record typed closed
    | map values => exact False.elim
    | list elements => exact False.elim
    | faulty fault => exact False.elim

theorem fields_iff {limit : Nat} {node : SchemaNode} {depth : Nat} :
    Fields limit node depth ↔ depth < limit ∧ ∀ name child, (name, child) ∈ node.properties →
      Shape limit child depth ∧ Values child := by
  constructor
  · intro holds
    rcases holds with ⟨shallow, shapes, values⟩
    exact ⟨shallow, fun name child member => ⟨shapes name child member, values name child member⟩⟩
  · intro holds
    rcases holds with ⟨shallow, children⟩
    exact ⟨shallow, fun name child member => (children name child member).1,
      fun name child member => (children name child member).2⟩

end Dialect

end CrdCompiler
