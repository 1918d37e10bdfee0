import CrdCompiler.Proofs.Assembling
import CrdCompiler.Proofs.SameContent

/-! # Independence of order

What is compiled depends on the content of a schema alone. Sorting erases the order of properties at
every level, below structures, lists and maps alike; only which error is found first depends on it.
-/

namespace CrdCompiler

namespace Resolver

open Outcome SchemaNode

variable {resolver : Resolver}

theorem fieldOf_related {required required' : List String}
    (listed : ∀ name, name ∈ required ↔ name ∈ required') {path : SchemaPath} {depth : Nat}
    {name : String} {left right : SchemaNode} (same : left.SameContent right)
    (shapes : Related (· = ·) (resolver.typeOf .property (path.child name) depth left)
      (resolver.typeOf .property (path.child name) depth right)) :
    Related (· = ·) (resolver.fieldOf required path depth (name, left))
      (resolver.fieldOf required' path depth (name, right)) := by
  have contained : required'.contains name = required.contains name := by
    rw [Bool.eq_iff_iff, List.contains_iff_mem, List.contains_iff_mem, listed name]
  unfold fieldOf
  apply Related.bind shapes
  intro holds _ equal
  rcases holds with ⟨type, children⟩
  cases equal
  simp only [contained, same.derive_eq]
  exact .refl _

theorem recordOf_related {path : SchemaPath} {depth : Nat} {left right : SchemaNode}
    (same : left.SameContent right) (distinct : left.HasDistinctKeys)
    (shapes : ∀ name child child', (name, child) ∈ left.properties → child.SameContent child' →
      Related (· = ·) (resolver.typeOf .property (path.child name) depth child)
        (resolver.typeOf .property (path.child name) depth child')) :
    Related (· = ·) (resolver.recordOf path depth left) (resolver.recordOf path depth right) := by
  cases same with
  | @intro _ _ reordered order properties _ _ required _ =>
      have aligned : List.Forall₂ (fun entry entry' =>
          Related (· = ·) (resolver.fieldOf left.required path depth entry)
            (resolver.fieldOf right.required path depth entry')) reordered right.properties := by
        have members : ∀ entry ∈ reordered, entry ∈ left.properties := fun entry member =>
          order.mem_iff.mpr member
        refine ((List.forall₂_and_left _ _).mpr ⟨members, properties⟩).imp ?_
        intro _ _ holds
        rcases holds with ⟨member, ⟨name, same⟩⟩
        exact fieldOf_related required same (shapes name _ _ member same)
      have realigned := Related.mapM aligned
      rw [List.forall₂_eq_eq_eq] at realigned
      have runs := (Related.mapM_of_perm (resolver.fieldOf left.required path depth) order).trans_eq
        realigned
      unfold recordOf
      apply Related.bind (.refl _)
      intro _ _ equal
      cases equal
      apply Related.bind runs.of_success
      intro fields fields' holds
      rcases holds with ⟨order', resolved⟩
      exact .ok ((fields_distinct distinct.keys resolved).sortSiblings_eq_of_perm order')

/-- Nodes of the same content get the same shape and fields, or both get none. -/
theorem typeOf_related {position : Position} {path : SchemaPath} {depth : Nat}
    {left right : SchemaNode} (same : left.SameContent right) (distinct : left.HasDistinctKeys) :
    Related (· = ·) (resolver.typeOf position path depth left)
      (resolver.typeOf position path depth right) := by
  have forms := same.forms
  rw [typeOf_eq, typeOf_eq]
  generalize leftForm : left.form = form at forms ⊢
  generalize right.form = form' at forms ⊢
  cases forms with
  | scalar kind => exact .refl _
  | fieldless => exact .refl _
  | record =>
      have siblings : Related (· = ·) (resolver.recordOf path (depth + 1) left)
          (resolver.recordOf path (depth + 1) right) := by
        apply recordOf_related same distinct
        intro name child child' member sameChild
        exact typeOf_related sameChild (distinct.property member)
      apply Related.map siblings
      intro children _ equal
      cases equal
      rfl
  | map sameValues =>
      cases form_eq_iff.mp leftForm with
      | map typed valued empty =>
          apply Related.bind (typeOf_related sameValues (distinct.value valued))
          intro element _ equal
          cases equal
          exact .refl _
  | list sameElements =>
      cases form_eq_iff.mp leftForm with
      | list typed itemized =>
          apply Related.bind (typeOf_related sameElements (distinct.item itemized))
          intro element _ equal
          cases equal
          exact .refl _
  | faulty fault => exact .refl _
termination_by sizeOf left
decreasing_by
  · exact sizeOf_property_lt member
  · exact sizeOf_values_lt valued
  · exact sizeOf_elements_lt itemized

theorem resolveProperties_related {left right : SchemaNode} (same : left.SameContent right)
    (distinct : left.HasDistinctKeys) (path : SchemaPath) :
    Related (· = ·) (resolver.resolveProperties left path)
      (resolver.resolveProperties right path) := by
  rw [resolveProperties_eq, resolveProperties_eq]
  apply recordOf_related same distinct
  intro name child child' member sameChild
  exact typeOf_related sameChild (distinct.property member)

end Resolver

namespace Assembly

open Outcome SchemaNode

theorem require_related {α : Type} {related : α → α → Prop} {found found' : Option α}
    (same : Option.Rel related found found') (path path' : SchemaPath) (fault : ShapeFault) :
    Related related (require found path fault) (require found' path' fault) := by
  cases same with
  | some same => exact .ok same
  | none => exact .error _ _

theorem checkRoot_related {left right : SchemaNode} (same : left.SameContent right)
    (path : SchemaPath) : Related (· = ·) (checkRoot left path) (checkRoot right path) := by
  have roots : Dialect.Root left ↔ Dialect.Root right := by
    constructor
    · intro holds
      rcases holds with ⟨typed, closed⟩
      exact ⟨same.type_eq.trans typed, same.hasNoValueSchema_iff.mpr closed⟩
    · intro holds
      rcases holds with ⟨typed, closed⟩
      exact ⟨same.type_eq.symm.trans typed, same.hasNoValueSchema_iff.mp closed⟩
  apply Related.of_ok_iff
  rw [checkRoot_eq_ok, checkRoot_eq_ok, roots]

structure SameSubtrees (left right : SchemaNode × SchemaNode) : Prop where
  spec : left.1.SameContent right.1
  status : left.2.SameContent right.2
  specKeys : left.1.HasDistinctKeys
  statusKeys : left.2.HasDistinctKeys

theorem subtrees_related {left right : ResourceVersion} (same : left.SameContent right)
    (distinct : ∀ schema, left.schema = some schema → schema.HasDistinctKeys) :
    Related SameSubtrees (subtrees left) (subtrees right) := by
  unfold subtrees
  apply Related.bind (require_related same.schema _ _ _).of_success
  intro schema schema' holds
  rcases holds with ⟨sameSchema, declared⟩
  have distinct := distinct schema (require_eq_ok.mp declared)
  apply Related.bind
    (require_related (sameSchema.property?_related distinct "spec") _ _ _).of_success
  intro spec spec' holds
  rcases holds with ⟨sameSpec, specDeclared⟩
  apply Related.bind
    (require_related (sameSchema.property?_related distinct "status") _ _ _).of_success
  intro status status' holds
  rcases holds with ⟨sameStatus, statusDeclared⟩
  apply Related.bind (checkRoot_related sameSpec _)
  intro _ _ _
  apply Related.bind (checkRoot_related sameStatus _)
  intro _ _ _
  exact .ok {
    spec := sameSpec.withoutProperties _
    status := sameStatus.withoutProperties _
    specKeys := (distinct.property? (require_eq_ok.mp specDeclared)).withoutProperties _
    statusKeys := (distinct.property? (require_eq_ok.mp statusDeclared)).withoutProperties _ }

theorem assemble_related {left right : CustomResourceDefinition} (same : left.SameContent right)
    (distinct : left.HasDistinctKeys) (maxDepth : Nat) :
    Related (· = ·) (assemble left maxDepth) (assemble right maxDepth) := by
  unfold assemble
  apply Related.bind (require_related same.first _ _ _).of_success
  intro version version' holds
  rcases holds with ⟨sameVersion, first⟩
  have distinctSchema : ∀ schema, version.schema = some schema → schema.HasDistinctKeys :=
    fun schema declared => distinct version schema (require_eq_ok.mp first) declared
  apply Related.bind (subtrees_related sameVersion distinctSchema)
  intro split split' trees
  rcases split with ⟨spec, status⟩
  rcases split' with ⟨spec', status'⟩
  apply Related.bind (Resolver.resolveProperties_related trees.spec trees.specKeys _)
  intro specProperties _ equal
  cases equal
  apply Related.bind (Resolver.resolveProperties_related trees.status trees.statusKeys _)
  intro statusProperties _ equal
  cases equal
  apply Related.ok
  simp only [document, same.group, same.names, sameVersion.name]

/-- Schemas of the same content are compiled to the same result, if to any. -/
theorem result_determined_by_content :
    (∀ (resolver : Resolver) (left right : SchemaNode) (path : SchemaPath),
      left.SameContent right → left.HasDistinctKeys →
        (resolver.resolveProperties left path).toOption =
          (resolver.resolveProperties right path).toOption) ∧
    ∀ (left right : CustomResourceDefinition) (maxDepth : Nat),
      left.SameContent right → left.HasDistinctKeys →
        (assemble left maxDepth).toOption = (assemble right maxDepth).toOption := by
  constructor
  · intro resolver left right path same distinct
    exact (Resolver.resolveProperties_related same distinct path).toOption_eq
  · intro left right maxDepth same distinct
    exact (assemble_related same distinct maxDepth).toOption_eq

/-- An object with a list of structures, which have the given fields. -/
def rulesOf (fields : List (String × SchemaNode)) (required : List String) : SchemaNode where
  type := some "object"
  properties := [("rules", {
    type := some "array"
    items := some { type := some "object", properties := fields, required } })]

def definitionOf (properties : List (String × SchemaNode)) : CustomResourceDefinition where
  apiVersion := none
  kind := none
  group := "example.org"
  names := ⟨"Rule", "rules"⟩
  versions := [⟨"v1", some { properties }⟩]

/-- Fields in another order inside a list, and subtrees in another order at the root. -/
theorem reordered_definitions_compiled_alike :
    let host : String × SchemaNode := ("host", { type := some "string" })
    let port : String × SchemaNode := ("port", { type := some "integer" })
    let spec := rulesOf [host, port] ["host", "port"]
    let spec' := rulesOf [port, host] ["port", "host", "port"]
    let status : SchemaNode := { type := some "object" }
    let definition := definitionOf [("spec", spec), ("status", status)]
    let definition' := definitionOf [("status", status), ("spec", spec')]
    (Resolver.resolveProperties ⟨false, 2⟩ spec specPath).toOption =
        (Resolver.resolveProperties ⟨false, 2⟩ spec' specPath).toOption ∧
      (assemble definition 2).toOption = (assemble definition' 2).toOption ∧
      (assemble definition 2).toOption.isSome := by
  intro host port spec spec' status definition definition'
  have leaf (keyword : String) : SameContent { type := some keyword } { type := some keyword } :=
    .intro (.refl _) .nil .absent .none (fun _ => Iff.rfl) rfl
  have sameSpec : spec.SameContent spec' := by
    refine .intro (.refl _) (.cons (.intro "rules" ?_) .nil) .absent .none (fun _ => Iff.rfl) rfl
    refine .intro (.refl _) .nil .absent (.some ?_) (fun _ => Iff.rfl) rfl
    refine .intro (.swap _ _ _) ?_ .absent .none ?_ rfl
    · exact .cons (.intro "port" (leaf "integer")) (.cons (.intro "host" (leaf "string")) .nil)
    · intro name
      rw [List.mem_pair, List.mem_cons, List.mem_pair]
      tauto
  have specKeys : spec.HasDistinctKeys := by decide
  have same : definition.SameContent definition' := by
    refine ⟨rfl, rfl, .some ⟨rfl, .some ?_⟩⟩
    refine .intro (.swap _ _ _) ?_ .absent .none (fun _ => Iff.rfl) rfl
    exact .cons (.intro "status" (leaf "object")) (.cons (.intro "spec" sameSpec) .nil)
  have keys : definition.HasDistinctKeys := by
    intro _ _ equal equal'
    cases equal
    cases equal'
    decide
  exact ⟨result_determined_by_content.1 _ _ _ _ sameSpec specKeys,
    result_determined_by_content.2 _ _ _ same keys, rfl⟩

end Assembly

end CrdCompiler
