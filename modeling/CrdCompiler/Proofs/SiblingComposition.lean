import CrdCompiler.Proofs.Resolution
import CrdCompiler.Proofs.StableOrder
import Mathlib.Data.String.Basic

/-! # Siblings apart

The properties of a node are resolved apart from one another. A part of them resolves as if the rest
were not there, the results of two parts are merged by name, and what fails first in the order of
the node is what the whole fails with.
-/

namespace CrdCompiler

/-- Two lists of siblings as one in order of names, of equal names those of the first list before
those of the second. -/
def Property.mergeSiblings (left right : List Property) : List Property :=
  left.merge right fun first second => first.name ≤ second.name

theorem Property.sortSiblings_append (left right : List Property) :
    sortSiblings (left ++ right) = mergeSiblings (sortSiblings left) (sortSiblings right) :=
  (isTotalPreorder_of_key Property.name).mergeSort_append left right

namespace Resolver

variable (resolver : Resolver) (node : SchemaNode) (path : SchemaPath)

theorem recordOf_append (depth : Nat) (first second : List (String × SchemaNode)) :
    resolver.recordOf path depth { node with properties := first ++ second } = (do
      let left ← resolver.recordOf path depth { node with properties := first }
      let right ← resolver.recordOf path depth { node with properties := second }
      return Property.mergeSiblings left right) := by
  simp only [recordOf, List.mapM_append]
  cases resolver.enter path depth with
  | error fault => rfl
  | ok entered =>
      cases first.mapM (resolver.fieldOf node.required path depth) with
      | error fault => rfl
      | ok left =>
          cases second.mapM (resolver.fieldOf node.required path depth) with
          | error fault => rfl
          | ok right => exact congrArg Except.ok (Property.sortSiblings_append left right)

theorem resolveProperties_singleton (entry : String × SchemaNode) :
    resolver.resolveProperties { node with properties := [entry] } path = (do
      resolver.enter path 0
      List.singleton <$> resolver.fieldOf node.required path 0 entry) := by
  rw [resolveProperties_eq, recordOf]
  simp only [List.mapM_cons, List.mapM_nil]
  cases resolver.fieldOf node.required path 0 entry with
  | error fault => rfl
  | ok field =>
      have alone : Property.sortSiblings [field] = [field] := List.mergeSort_singleton field
      simp only [Outcome.ok_bind, pure_bind, alone]
      rfl

theorem fieldOf_requires (depth : Nat) (entry : String × SchemaNode) :
    resolver.fieldOf (if node.requires entry.1 then [entry.1] else []) path depth entry =
      resolver.fieldOf node.required path depth entry := by
  have same : (if node.requires entry.1 then [entry.1] else []).contains entry.1 =
      node.required.contains entry.1 := by
    rw [SchemaNode.requires]
    cases node.required.contains entry.1 <;> simp
  rw [fieldOf, fieldOf, same]

/-- The first property that fails on its own is what the node fails with; a node without properties
fails only where no record at all is entered. -/
theorem resolveProperties_eq_error {fault : CompileError} :
    resolver.resolveProperties node path = .error fault ↔
      (node.properties = [] ∧ resolver.enter path 0 = .error fault) ∨
      ∃ before entry after, node.properties = before ++ entry :: after ∧
        (∀ earlier ∈ before, ∃ siblings,
          resolver.resolveProperties { node with properties := [earlier] } path = .ok siblings) ∧
        resolver.resolveProperties { node with properties := [entry] } path = .error fault := by
  simp only [resolveProperties_singleton]
  rw [resolveProperties_eq, recordOf]
  cases entered : resolver.enter path 0 with
  | error refused =>
      simp only [Outcome.error_bind, Except.error.injEq]
      constructor
      · intro equal
        cases properties : node.properties with
        | nil => exact .inl ⟨rfl, equal⟩
        | cons entry rest => exact .inr ⟨[], entry, rest, rfl, by simp, equal⟩
      · intro holds
        rcases holds with ⟨_, equal⟩ | ⟨_, _, _, _, _, equal⟩ <;> exact equal
  | ok entered =>
      simp only [Outcome.ok_bind, bind_pure_comp, Outcome.map_succeeds_iff, Outcome.map_eq_error,
        Outcome.mapM_eq_error]
      simp

/-- Resolution composes over any split of the properties of a node: what fails in the first part
fails the whole, then what fails in the second, and else the results are merged by name. So a
property resolves by its own schema and by whether it is required, and the first property that fails
is the one reported. -/
theorem resolution_composes :
    (∀ first second,
      resolver.resolveProperties { node with properties := first ++ second } path = (do
        let left ← resolver.resolveProperties { node with properties := first } path
        let right ← resolver.resolveProperties { node with properties := second } path
        return Property.mergeSiblings left right)) ∧
      (∀ entry,
        resolver.resolveProperties { node with properties := [entry] } path =
          resolver.resolveProperties {
            properties := [entry]
            required := if node.requires entry.1 then [entry.1] else [] } path) ∧
      ∀ fault, resolver.resolveProperties node path = .error fault ↔
        (node.properties = [] ∧ resolver.enter path 0 = .error fault) ∨
        ∃ before entry after, node.properties = before ++ entry :: after ∧
          (∀ earlier ∈ before, ∃ siblings,
            resolver.resolveProperties { node with properties := [earlier] } path = .ok siblings) ∧
          resolver.resolveProperties { node with properties := [entry] } path = .error fault := by
  refine ⟨?_, ?_, fun fault => resolver.resolveProperties_eq_error node path⟩
  · intro first second
    simp only [resolveProperties_eq]
    exact resolver.recordOf_append node path 0 first second
  · intro entry
    rw [resolveProperties_singleton, ← fieldOf_requires]
    exact (resolver.resolveProperties_singleton { required := _ } path entry).symm

end Resolver

end CrdCompiler
