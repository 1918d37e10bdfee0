import CrdCompiler.Proofs.Assembling
import CrdCompiler.Proofs.FieldTree

/-! # The computed flag

A resolver for computed subtrees does what one for configurable subtrees does, and marks what comes
out: it fails with the same errors, and its properties differ by the mark alone, at every depth.
-/

namespace CrdCompiler

namespace Property

mutual

def markComputed : Property → Property
  | property@{ children, .. } =>
    { property with computed := true, children := markAllComputed children }

def markAllComputed : List Property → List Property
  | [] => []
  | property :: rest => property.markComputed :: markAllComputed rest

end

theorem markAllComputed_eq_map (siblings : List Property) :
    markAllComputed siblings = siblings.map markComputed := by
  induction siblings with
  | nil => rfl
  | cons property rest induction => rw [markAllComputed, induction, List.map_cons]

theorem markComputed_eq (property : Property) :
    property.markComputed =
      { property with computed := true, children := property.children.map markComputed } := by
  cases property
  rw [markComputed, markAllComputed_eq_map]

theorem markComputed_name (property : Property) : property.markComputed.name = property.name := by
  rw [markComputed_eq]

end Property

namespace Resolver

open Property SchemaNode

def markFields (shape : TypeDescriptor × List Property) : TypeDescriptor × List Property :=
  (shape.1, shape.2.map markComputed)

variable {maxDepth : Nat} {path : SchemaPath} {depth : Nat}

theorem propertyOf_computed (name : String) (type : TypeDescriptor) (children : List Property)
    (metadata : Metadata) :
    propertyOf ⟨true, maxDepth⟩ name type (children.map markComputed) metadata =
      (propertyOf ⟨false, maxDepth⟩ name type children metadata).markComputed := by
  rw [markComputed_eq, propertyOf, propertyOf, Bool.true_or]

theorem fieldOf_computed {required : List String} {entry : String × SchemaNode}
    (shapes : typeOf ⟨true, maxDepth⟩ .property (path.child entry.1) depth entry.2 =
      markFields <$> typeOf ⟨false, maxDepth⟩ .property (path.child entry.1) depth entry.2) :
    fieldOf ⟨true, maxDepth⟩ required path depth entry =
      markComputed <$> fieldOf ⟨false, maxDepth⟩ required path depth entry := by
  unfold fieldOf
  rw [shapes]
  cases typeOf ⟨false, maxDepth⟩ .property (path.child entry.1) depth entry.2 with
  | error fault => rfl
  | ok shape =>
      rcases shape with ⟨type, children⟩
      simp only [Outcome.ok_map, Outcome.ok_bind, markFields, propertyOf_computed]
      cases Metadata.derive entry.2 (required.contains entry.1) type.scalarKind?
        (path.child entry.1) <;> rfl

theorem recordOf_computed {node : SchemaNode}
    (shapes : ∀ name child, (name, child) ∈ node.properties →
      typeOf ⟨true, maxDepth⟩ .property (path.child name) depth child =
        markFields <$> typeOf ⟨false, maxDepth⟩ .property (path.child name) depth child) :
    recordOf ⟨true, maxDepth⟩ path depth node =
      List.map markComputed <$> recordOf ⟨false, maxDepth⟩ path depth node := by
  have fields : node.properties.mapM (fieldOf ⟨true, maxDepth⟩ node.required path depth) =
      List.map markComputed <$>
        node.properties.mapM (fieldOf ⟨false, maxDepth⟩ node.required path depth) :=
    Outcome.mapM_changed fun entry member => fieldOf_computed (shapes entry.1 entry.2 member)
  have entered : enter ⟨true, maxDepth⟩ path depth = enter ⟨false, maxDepth⟩ path depth := rfl
  unfold recordOf
  rw [entered, fields]
  cases enter ⟨false, maxDepth⟩ path depth with
  | error fault => rfl
  | ok value =>
      cases node.properties.mapM (fieldOf ⟨false, maxDepth⟩ node.required path depth) with
      | error fault => rfl
      | ok fields => exact congrArg Except.ok (sortSiblings_map markComputed_name fields)

theorem collection_computed {collection : TypeDescriptor → TypeDescriptor} {fault : ShapeFault}
    {inner : SchemaNode}
    (elements : typeOf ⟨true, maxDepth⟩ .element path depth inner =
      markFields <$> typeOf ⟨false, maxDepth⟩ .element path depth inner) :
    typeOf ⟨true, maxDepth⟩ .element path depth inner >>= collectionOf collection fault path =
      markFields <$> (typeOf ⟨false, maxDepth⟩ .element path depth inner >>=
        collectionOf collection fault path) := by
  rw [elements]
  cases typeOf ⟨false, maxDepth⟩ .element path depth inner with
  | error fault => rfl
  | ok element =>
      simp only [Outcome.ok_map, Outcome.ok_bind, collectionOf, markFields]
      cases element.1.isElement <;> rfl

theorem typeOf_computed {position : Position} {node : SchemaNode} :
    typeOf ⟨true, maxDepth⟩ position path depth node =
      markFields <$> typeOf ⟨false, maxDepth⟩ position path depth node := by
  induction node using formInduction generalizing position path depth with
  | scalar node kind form =>
      rw [typeOf_eq, typeOf_eq, form]
      rfl
  | fieldless node form =>
      rw [typeOf_eq, typeOf_eq, form]
      cases position <;> rfl
  | record node form induction =>
      have fields : recordOf ⟨true, maxDepth⟩ path (depth + 1) node =
          List.map markComputed <$> recordOf ⟨false, maxDepth⟩ path (depth + 1) node :=
        recordOf_computed fun name child member => induction name child member
      rw [typeOf_eq, typeOf_eq, form]
      simp only [fields]
      cases recordOf ⟨false, maxDepth⟩ path (depth + 1) node <;> rfl
  | map node values form induction =>
      rw [typeOf_eq, typeOf_eq, form]
      exact collection_computed induction
  | list node elements form induction =>
      rw [typeOf_eq, typeOf_eq, form]
      exact collection_computed induction
  | faulty node fault form =>
      rw [typeOf_eq, typeOf_eq, form]
      rfl

theorem resolveProperties_computed (node : SchemaNode) (path : SchemaPath) :
    resolveProperties ⟨true, maxDepth⟩ node path =
      List.map markComputed <$> resolveProperties ⟨false, maxDepth⟩ node path := by
  rw [resolveProperties_eq, resolveProperties_eq]
  exact recordOf_computed fun name child _ => typeOf_computed

theorem makesOnly_computed (resolver : Resolver) :
    resolver.MakesOnly fun _ property =>
      property.computed = (resolver.computed || property.default.isSome) := by
  intro required path depth name child property resolved
  rcases fieldOf_eq_ok.mp resolved with ⟨type, children, metadata, _, _, rfl⟩
  rfl

theorem computed_of_within {resolver : Resolver} {node : SchemaNode} {properties : List Property}
    (resolved : resolver.resolveProperties node path = .ok properties) {property : Property}
    (within : Within properties property) :
    property.computed = (resolver.computed || property.default.isSome) := by
  have each := eachField_of_resolveProperties resolver.makesOnly_computed resolved
  rcases each.of_within within with ⟨_, computed⟩
  exact computed

end Resolver

namespace Assembly

open Property Resolver

/-- The flag of a resolver has no effect but the mark on all properties. In a document all of the
status is marked, and of the spec what has a default. -/
theorem computed_flag_only_marks (maxDepth : Nat) :
    (∀ node path, resolveProperties ⟨true, maxDepth⟩ node path =
      List.map markComputed <$> resolveProperties ⟨false, maxDepth⟩ node path) ∧
    (∀ node path properties, resolveProperties ⟨false, maxDepth⟩ node path = .ok properties →
      ∀ property, Within properties property → property.computed = property.default.isSome) ∧
    ∀ definition document, assemble definition maxDepth = .ok document →
      (∀ property, Within document.statusProperties property → property.computed) ∧
      ∀ property, Within document.specProperties property →
        property.computed = property.default.isSome := by
  refine ⟨resolveProperties_computed, ?_, ?_⟩
  · intro node path properties resolved property within
    rw [computed_of_within resolved within, Bool.false_or]
  · intro definition document assembled
    rcases assemble_eq_ok.mp assembled with ⟨version, _, _, specProperties, statusProperties, _,
      _, specResolved, statusResolved, rfl⟩
    constructor
    · intro property within
      rw [computed_of_within statusResolved within, Bool.true_or]
    · intro property within
      rw [computed_of_within specResolved within, Bool.false_or]

/-- Pools of a size, which has a default, and in a zone, which has none. -/
def poolsSchema : SchemaNode where
  type := some "object"
  properties := [("pools", {
    type := some "array"
    items := some {
      type := some "object"
      properties := [
        ("size", { type := some "integer", default := some (.number (.integer ⟨3, by decide⟩)) }),
        ("zone", { type := some "string" })] } })]

def poolsDefinition : CustomResourceDefinition where
  apiVersion := none
  kind := none
  group := "example.org"
  names := ⟨"Cluster", "clusters"⟩
  versions := [⟨"v1", some { properties := [("spec", poolsSchema), ("status", poolsSchema)] }⟩]

theorem poolsDefinition_marked :
    ∃ properties document,
      resolveProperties ⟨false, 2⟩ poolsSchema specPath = .ok properties ∧
      resolveProperties ⟨true, 2⟩ poolsSchema specPath = .ok (properties.map markComputed) ∧
      (∀ property, Within properties property → property.computed = property.default.isSome) ∧
      ((properties.flatMap (·.children)).map fun field => (field.name, field.computed)) =
        [("size", true), ("zone", false)] ∧
      assemble poolsDefinition 2 = .ok document ∧
      (∀ property, Within document.statusProperties property → property.computed) ∧
      ∀ property, Within document.specProperties property →
        property.computed = property.default.isSome := by
  have resolved : ∃ properties,
      resolveProperties ⟨false, 2⟩ poolsSchema specPath = .ok properties := ⟨_, rfl⟩
  have assembled : ∃ document, assemble poolsDefinition 2 = .ok document := ⟨_, rfl⟩
  rcases resolved with ⟨properties, resolved⟩
  rcases assembled with ⟨document, assembled⟩
  rcases computed_flag_only_marks 2 with ⟨marks, defaulted, documents⟩
  refine ⟨properties, document, resolved, ?_, defaulted _ _ _ resolved, ?_, assembled,
    documents _ _ assembled⟩
  · rw [marks, resolved]
    rfl
  · cases resolved
    simp [sortSiblings, propertyOf, List.mergeSort, List.MergeSort.Internal.splitInTwo]

end Assembly

end CrdCompiler
