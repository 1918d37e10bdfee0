import CrdCompiler.Proofs.Assembling
import CrdCompiler.Proofs.FieldTree

/-! # Injected fields

What composite resources carry by injection stands at the top of the two subtrees, and only there is
it left out. Whatever schemas it has, and whatever the other parts of a definition say, the result
is the same: the same document, or the same error.
-/

namespace CrdCompiler

/-! ## Definitions that differ in what is left out -/

/-- Without some of their properties the nodes are one node. These properties may have any schemas,
and a node that has no schema for values under other names may have more or fewer of them. -/
structure SchemaNode.AgreesApartFrom (names : List String) (left right : SchemaNode) : Prop where
  others : left.withoutProperties names = right.withoutProperties names
  keys : ∀ values, left.additionalProperties = .schema values →
    left.properties.map Prod.fst = right.properties.map Prod.fst

structure SchemaNode.SubtreesAgree (left right : SchemaNode) : Prop where
  spec : Option.Rel (AgreesApartFrom Assembly.injectedSpecFields)
    (left.property? "spec") (right.property? "spec")
  status : Option.Rel (AgreesApartFrom Assembly.injectedStatusFields)
    (left.property? "status") (right.property? "status")

structure ResourceVersion.SubtreesAgree (left right : ResourceVersion) : Prop where
  name : left.name = right.name
  schema : Option.Rel SchemaNode.SubtreesAgree left.schema right.schema

structure CustomResourceDefinition.SubtreesAgree (left right : CustomResourceDefinition) :
    Prop where
  group : left.group = right.group
  names : left.names = right.names
  first : Option.Rel ResourceVersion.SubtreesAgree left.versions.head? right.versions.head?

/-! ## Equal results -/

namespace Assembly

theorem require_bind_eq {related : α → α → Prop} {found found' : Option α}
    (same : Option.Rel related found found') (path : SchemaPath) (fault : ShapeFault)
    {next next' : α → Except CompileError β}
    (continued : ∀ value value', related value value' → next value = next' value') :
    require found path fault >>= next = require found' path fault >>= next' := by
  cases same with
  | some same => exact continued _ _ same
  | none => rfl

theorem checkRoot_eq {names : List String} {left right : SchemaNode}
    (agrees : left.AgreesApartFrom names right) (path : SchemaPath) :
    checkRoot left path = checkRoot right path := by
  have typed := congrArg SchemaNode.type agrees.others
  have valued := congrArg SchemaNode.additionalProperties agrees.others
  change left.type = right.type at typed
  change left.additionalProperties = right.additionalProperties at valued
  unfold checkRoot SchemaNode.valueSchema?
  rw [← typed, ← valued]
  cases values : left.additionalProperties with
  | absent => rfl
  | flag allowed => cases allowed <;> rfl
  | schema node =>
      have empty : left.properties.isEmpty = right.properties.isEmpty := by
        rw [← List.isEmpty_map, agrees.keys node values, List.isEmpty_map]
      rw [empty]

theorem subtrees_eq {left right : ResourceVersion} (agree : left.SubtreesAgree right) :
    subtrees left = subtrees right := by
  unfold subtrees
  rw [agree.name]
  apply require_bind_eq agree.schema
  intro schema schema' agree
  apply require_bind_eq agree.spec
  intro spec spec' specAgrees
  apply require_bind_eq agree.status
  intro status status' statusAgrees
  rw [checkRoot_eq specAgrees, checkRoot_eq statusAgrees, specAgrees.others, statusAgrees.others]

end Assembly

/-! ## Fields that are kept -/

namespace Resolver

open SchemaNode

variable {resolver : Resolver} {path : SchemaPath} {depth : Nat}

def KeepsKeys (child : SchemaNode) (property : Property) : Prop :=
  ∀ below, child.fieldOwner? property.type = some below →
    (property.children.map Property.name).Perm (below.properties.map Prod.fst)

theorem recordOf_names {node : SchemaNode} {siblings : List Property}
    (resolved : resolver.recordOf path depth node = .ok siblings) :
    (siblings.map Property.name).Perm (node.properties.map Prod.fst) := by
  rcases recordOf_eq_ok.mp resolved with ⟨_, fields, made, rfl⟩
  rw [← fields_names made]
  exact (Property.sortSiblings_perm fields).map Property.name

theorem makesOnly_keepsKeys (resolver : Resolver) : resolver.MakesOnly KeepsKeys := by
  intro required path depth name child property resolved below owned
  have origin := fieldsFrom_of_fieldOf resolved
  generalize property.children = children at origin
  cases origin with
  | nowhere ownerless =>
      rw [ownerless] at owned
      cases owned
  | fieldless owned' empty =>
      cases owned.symm.trans owned'
      rw [empty]
      exact .nil
  | record owned' fields =>
      cases owned.symm.trans owned'
      exact recordOf_names fields

/-- The properties have the names of a node's fields that are not left out, and below them no field
is left out. -/
structure KeptFields (omitted : List String) (node : SchemaNode) (properties : List Property) :
    Prop where
  names : (properties.map Property.name).Perm
    ((node.properties.map Prod.fst).filter fun name => !omitted.contains name)
  deeper : EachField KeepsKeys (node.withoutProperties omitted) properties

theorem keptFields_of_resolveProperties {omitted : List String} {node : SchemaNode}
    {properties : List Property}
    (resolved : resolver.resolveProperties (node.withoutProperties omitted) path =
      .ok properties) : KeptFields omitted node properties where
  names := by
    have kept : (node.withoutProperties omitted).properties.map Prod.fst =
        (node.properties.map Prod.fst).filter fun name => !omitted.contains name := by
      rw [List.filter_map]
      rfl
    rw [resolveProperties_eq] at resolved
    rw [← kept]
    exact recordOf_names resolved
  deeper := eachField_of_resolveProperties resolver.makesOnly_keepsKeys resolved

end Resolver

namespace Assembly

open Resolver

/-- The result does not depend on injected fields or on any part of a definition besides the two
subtrees of its first version. A document has all other fields of the subtrees, and below the top
also those that have the name of an injected one. -/
theorem injected_fields_inert (maxDepth : Nat) :
    (∀ left right : CustomResourceDefinition, left.SubtreesAgree right →
      assemble left maxDepth = assemble right maxDepth) ∧
    ∀ definition document, assemble definition maxDepth = .ok document →
      ∃ version schema spec status, definition.versions.head? = some version ∧
        version.schema = some schema ∧ schema.property? "spec" = some spec ∧
        schema.property? "status" = some status ∧
        KeptFields injectedSpecFields spec document.specProperties ∧
        KeptFields injectedStatusFields status document.statusProperties := by
  constructor
  · intro left right agree
    unfold assemble
    apply require_bind_eq agree.first
    intro version version' agreeFirst
    simp only [subtrees_eq agreeFirst, document, agree.group, agree.names, agreeFirst.name]
  · intro definition document assembled
    rcases assemble_eq_ok.mp assembled with ⟨version, _, _, specProperties, statusProperties, first,
      split, specResolved, statusResolved, rfl⟩
    rcases subtrees_eq_ok.mp split with ⟨schema, spec, status, declared, specDeclared,
      statusDeclared, _, _, parts⟩
    cases parts
    exact ⟨version, schema, spec, status, first, declared, specDeclared, statusDeclared,
      keptFields_of_resolveProperties specResolved, keptFields_of_resolveProperties statusResolved⟩

/-- A resource with a backup, whose target has the name of an injected field, and with other
properties in its spec. -/
def backedUp (before after : List (String × SchemaNode)) (others : List ResourceVersion) :
    CustomResourceDefinition where
  apiVersion := none
  kind := none
  group := "example.org"
  names := ⟨"Store", "stores"⟩
  versions := ⟨"v1", some {
    properties := [
      ("spec", {
        type := some "object"
        properties := before ++ [("backup", {
          type := some "object"
          properties := [("resourceRef", { type := some "string" })] })] ++ after }),
      ("status", { type := some "object" })] }⟩ :: others

/-- The injected fields of one definition have no type and are an array without items in the
other. -/
theorem backedUp_alike :
    let left := backedUp [("compositionRef", {})] [] []
    let right := backedUp [] [("compositionRef", { type := some "array" }), ("resourceRef", {})]
      [⟨"v2", none⟩]
    left.SubtreesAgree right ∧ assemble left 2 = assemble right 2 ∧
      ∃ document, assemble left 2 = .ok document ∧
        (document.specProperties.map fun property =>
          (property.name, property.children.map Property.name)) = [("backup", ["resourceRef"])] ∧
        ∃ version schema spec status, left.versions.head? = some version ∧
          version.schema = some schema ∧ schema.property? "spec" = some spec ∧
          schema.property? "status" = some status ∧
          KeptFields injectedSpecFields spec document.specProperties ∧
          KeptFields injectedStatusFields status document.statusProperties := by
  intro left right
  have agree : left.SubtreesAgree right := by
    refine ⟨rfl, rfl, .some ⟨rfl, .some ⟨.some ⟨rfl, ?_⟩, .some ⟨rfl, ?_⟩⟩⟩⟩
    · intro values valued
      cases valued
    · intro values valued
      cases valued
  have assembled : ∃ document, assemble left 2 = .ok document := ⟨_, rfl⟩
  rcases assembled with ⟨document, assembled⟩
  refine ⟨agree, (injected_fields_inert 2).1 left right agree, document, assembled, ?_,
    (injected_fields_inert 2).2 left document assembled⟩
  cases assembled
  simp [Assembly.document, Property.sortSiblings, propertyOf]

end Assembly

end CrdCompiler
