import CrdCompiler.Proofs.Dialect
import CrdCompiler.Proofs.Resolution

/-! # Successful assembly

What a definition must have for a document to be assembled from it, step by step.
-/

namespace CrdCompiler.Assembly

theorem require_eq_ok {α : Type} {found : Option α} {path : SchemaPath} {fault : ShapeFault}
    {value : α} : require found path fault = .ok value ↔ found = some value := by
  cases found <;> simp [require]

theorem valueSchema?_eq_none_iff {node : SchemaNode} {path : SchemaPath} :
    node.valueSchema? path = .ok none ↔ node.HasNoValueSchema := by
  unfold SchemaNode.valueSchema? SchemaNode.HasNoValueSchema
  cases node.additionalProperties with
  | absent => simp
  | flag allowed => cases allowed <;> simp
  | schema values => simp

theorem checkRoot_eq_ok {node : SchemaNode} {path : SchemaPath} :
    checkRoot node path = .ok () ↔ Dialect.Root node := by
  constructor
  · intro checked
    unfold checkRoot at checked
    split at checked
    · cases checked
    · rename_i keyword typed
      split at checked
      · rename_i isObject
        rcases Outcome.bind_eq_ok.mp checked with ⟨values?, valued, closed⟩
        cases values? with
        | none => exact ⟨by rw [typed, isObject], valueSchema?_eq_none_iff.mp valued⟩
        | some values => cases closed
      · cases checked
  · intro holds
    rcases holds with ⟨typed, closed⟩
    have valueless : node.valueSchema? path = .ok none := valueSchema?_eq_none_iff.mpr closed
    simp [checkRoot, typed, valueless]

theorem subtrees_eq_ok {version : ResourceVersion} {split : SchemaNode × SchemaNode} :
    subtrees version = .ok split ↔
      ∃ schema spec status, version.schema = some schema ∧
        schema.property? "spec" = some spec ∧ schema.property? "status" = some status ∧
        Dialect.Root spec ∧ Dialect.Root status ∧
        (spec.withoutProperties injectedSpecFields,
          status.withoutProperties injectedStatusFields) = split := by
  simp only [Assembly.subtrees, Outcome.bind_eq_ok, require_eq_ok]
  constructor
  · intro holds
    rcases holds with ⟨schema, declared, spec, specDeclared, status, statusDeclared, _, specRoot,
      _, statusRoot, result⟩
    cases result
    exact ⟨schema, spec, status, declared, specDeclared, statusDeclared,
      checkRoot_eq_ok.mp specRoot, checkRoot_eq_ok.mp statusRoot, rfl⟩
  · intro holds
    rcases holds with ⟨schema, spec, status, declared, specDeclared, statusDeclared, specRoot,
      statusRoot, rfl⟩
    exact ⟨schema, declared, spec, specDeclared, status, statusDeclared, (),
      checkRoot_eq_ok.mpr specRoot, (), checkRoot_eq_ok.mpr statusRoot, rfl⟩

theorem assemble_eq_ok {definition : CustomResourceDefinition} {maxDepth : Nat}
    {document : Document} :
    assemble definition maxDepth = .ok document ↔
      ∃ version spec status specProperties statusProperties,
        definition.versions.head? = some version ∧
        subtrees version = .ok (spec, status) ∧
        Resolver.resolveProperties ⟨false, maxDepth⟩ spec specPath =
          .ok specProperties ∧
        Resolver.resolveProperties ⟨true, maxDepth⟩ status statusPath =
          .ok statusProperties ∧
        Assembly.document definition version specProperties statusProperties = document := by
  simp only [assemble, Outcome.bind_eq_ok, require_eq_ok]
  constructor
  · intro holds
    rcases holds with ⟨version, first, ⟨spec, status⟩, split, specProperties, specResolved,
      statusProperties, statusResolved, result⟩
    cases result
    exact ⟨version, spec, status, specProperties, statusProperties, first, split, specResolved,
      statusResolved, rfl⟩
  · intro holds
    rcases holds with ⟨version, spec, status, specProperties, statusProperties, first, split,
      specResolved, statusResolved, rfl⟩
    exact ⟨version, first, (spec, status), split, specProperties, specResolved, statusProperties,
      statusResolved, rfl⟩

end CrdCompiler.Assembly
