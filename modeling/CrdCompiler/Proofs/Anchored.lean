import CrdCompiler.CompileError
import CrdCompiler.Proofs.Outcome

/-! # Computations anchored to a path

A computation along a schema path is anchored when the path is only a label: started anywhere, it
gives the same result, or it fails for the same cause at the same names below its start.
-/

namespace CrdCompiler

def SchemaPath.descend (path : SchemaPath) (names : List String) : SchemaPath :=
  ⟨path.segments ++ names⟩

@[simp] theorem SchemaPath.descend_nil (path : SchemaPath) : path.descend [] = path := by
  simp [descend]

@[simp] theorem SchemaPath.descend_child (path : SchemaPath) (name : String)
    (names : List String) : (path.child name).descend names = path.descend (name :: names) := by
  simp [descend, child]

/-- What is wrong with a schema, apart from where. -/
inductive Cause where
  | shape (fault : ShapeFault)
  | value (fault : ValueFault)

def Cause.errorAt (path : SchemaPath) : Cause → CompileError
  | .shape fault => .shape path fault
  | .value fault => .value path fault

/-- Every start gives one result, or one fault at names and for a cause that are `Faulty`. -/
inductive Anchored (Faulty : List String → Cause → Prop)
    (run : SchemaPath → Except CompileError α) : Prop where
  | result (value : α) (equal : ∀ path, run path = .ok value)
  | fault (names : List String) (cause : Cause) (faulty : Faulty names cause)
      (equal : ∀ path, run path = .error (cause.errorAt (path.descend names)))

namespace Anchored

variable {Faulty Wider : List String → Cause → Prop} {run : SchemaPath → Except CompileError α}

theorem ok (value : α) : Anchored Faulty fun _ => .ok value :=
  .result value fun _ => rfl

theorem error (cause : Cause) (faulty : Faulty [] cause) :
    Anchored (α := α) Faulty fun path => .error (cause.errorAt path) := by
  refine .fault [] cause faulty ?_
  intro path
  rw [SchemaPath.descend_nil]

theorem mono (anchored : Anchored Faulty run)
    (wider : ∀ names cause, Faulty names cause → Wider names cause) : Anchored Wider run := by
  cases anchored with
  | result value equal => exact .result value equal
  | fault names cause faulty equal => exact .fault names cause (wider names cause faulty) equal

theorem bind (anchored : Anchored Faulty run) {next : α → SchemaPath → Except CompileError β}
    (continues : ∀ value, (∀ path, run path = .ok value) → Anchored Faulty (next value)) :
    Anchored Faulty fun path => run path >>= fun value => next value path := by
  cases anchored with
  | result value equal =>
      simp only [equal]
      exact continues value equal
  | fault names cause faulty equal =>
      simp only [equal]
      exact .fault names cause faulty fun _ => rfl

theorem map (anchored : Anchored Faulty run) (change : α → β) :
    Anchored Faulty fun path => change <$> run path := by
  cases anchored with
  | result value equal =>
      simp only [equal]
      exact .ok _
  | fault names cause faulty equal =>
      simp only [equal]
      exact .fault names cause faulty fun _ => rfl

theorem child {name : String} (anchored : Anchored (fun names => Faulty (name :: names)) run) :
    Anchored Faulty fun path => run (path.child name) := by
  cases anchored with
  | result value equal => exact .result value fun path => equal (path.child name)
  | fault names cause faulty equal =>
      refine .fault (name :: names) cause faulty ?_
      intro path
      rw [equal, SchemaPath.descend_child]

theorem mapM {step : SchemaPath → α → Except CompileError β} {values : List α}
    (anchored : ∀ value ∈ values, Anchored Faulty fun path => step path value) :
    Anchored Faulty fun path => values.mapM (step path) := by
  induction values with
  | nil => exact .ok []
  | cons value rest induction =>
      rcases List.forall_mem_cons.mp anchored with ⟨first, others⟩
      simp only [List.mapM_cons]
      apply first.bind
      intro result _
      apply (induction others).bind
      intro results _
      exact .ok (result :: results)

end Anchored

end CrdCompiler
