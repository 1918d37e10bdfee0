import CrdCompiler.Proofs.Assembling
import CrdCompiler.Proofs.FaultPlaces

/-! # Subtree roots

The root of a subtree is checked on its own before its properties are resolved; an object further
down is resolved as a shape. Both ways end in the same fields or in the same fault. The fields of a
shape stand one level deeper than those of a root, and a node that stands some levels deeper under a
limit raised by as many levels differs by nothing but the limit that its error tells.
-/

namespace CrdCompiler

namespace CompileError

/-- The error as it is told under a limit raised by some levels. -/
def raiseLimit (levels : Nat) : CompileError → CompileError
  | .shape path (.tooDeep limit) => .shape path (.tooDeep (limit + levels))
  | fault => fault

theorem raiseLimit_shape {levels : Nat} {path : SchemaPath} {fault : ShapeFault}
    (other : ∀ limit, fault ≠ .tooDeep limit) :
    raiseLimit levels (.shape path fault) = .shape path fault := by
  cases fault with
  | tooDeep limit => exact absurd rfl (other limit)
  | _ => rfl

@[simp] theorem kind_raiseLimit (levels : Nat) (fault : CompileError) :
    (fault.raiseLimit levels).kind = fault.kind := by
  unfold raiseLimit
  split <;> rfl

@[simp] theorem path?_raiseLimit (levels : Nat) (fault : CompileError) :
    (fault.raiseLimit levels).path? = fault.path? := by
  unfold raiseLimit
  split <;> rfl

end CompileError

namespace Resolver

open SchemaNode

def raised (levels : Nat) (outcome : Except CompileError α) : Except CompileError α :=
  outcome.mapError (CompileError.raiseLimit levels)

variable {computed : Bool} {maxDepth levels depth : Nat} {path : SchemaPath}

@[simp] theorem raised_ok (value : α) :
    raised levels (.ok value : Except CompileError α) = .ok value := rfl

@[simp] theorem raised_error (fault : CompileError) :
    raised levels (.error fault : Except CompileError α) = .error (fault.raiseLimit levels) := rfl

theorem raised_bind (outcome : Except CompileError α) (next : α → Except CompileError β) :
    raised levels (outcome >>= next) =
      raised levels outcome >>= fun value => raised levels (next value) := by
  cases outcome <;> rfl

theorem raised_map (change : α → β) (outcome : Except CompileError α) :
    raised levels (change <$> outcome) = change <$> raised levels outcome := by
  cases outcome <;> rfl

theorem mapM_raised {step step' : α → Except CompileError β} {values : List α}
    (steps : ∀ value ∈ values, step' value = raised levels (step value)) :
    values.mapM step' = raised levels (values.mapM step) := by
  induction values with
  | nil => rfl
  | cons value rest induction =>
      rcases List.forall_mem_cons.mp steps with ⟨first, others⟩
      rw [List.mapM_cons, List.mapM_cons, first, induction others]
      simp only [raised_bind]
      rfl

theorem raised_derive (node : SchemaNode) (required : Bool) (kind? : Option ScalarKind) :
    raised levels (Metadata.derive node required kind? path) =
      Metadata.derive node required kind? path := by
  cases Metadata.derive_anchored node required kind? with
  | result metadata equal => rw [equal, raised_ok]
  | fault names cause faulty equal =>
      rcases faulty with ⟨⟨_, fault, rfl⟩, _⟩
      rw [equal]
      rfl

theorem enter_raised :
    enter ⟨computed, maxDepth + levels⟩ path (depth + levels) =
      raised levels (enter ⟨computed, maxDepth⟩ path depth) := by
  unfold enter
  by_cases deep : maxDepth ≤ depth
  · rw [if_pos deep, if_pos (Nat.add_le_add_right deep levels)]
    rfl
  · rw [if_neg deep, if_neg (fun deeper => deep (Nat.le_of_add_le_add_right deeper))]
    rfl

theorem fieldOf_raised {required : List String} {entry : String × SchemaNode}
    (shapes : typeOf ⟨computed, maxDepth + levels⟩ .property (path.child entry.1) (depth + levels)
        entry.2 =
      raised levels (typeOf ⟨computed, maxDepth⟩ .property (path.child entry.1) depth entry.2)) :
    fieldOf ⟨computed, maxDepth + levels⟩ required path (depth + levels) entry =
      raised levels (fieldOf ⟨computed, maxDepth⟩ required path depth entry) := by
  unfold fieldOf
  rw [shapes]
  simp only [raised_bind, raised_derive]
  rfl

theorem recordOf_raised {node : SchemaNode}
    (shapes : ∀ name child, (name, child) ∈ node.properties →
      typeOf ⟨computed, maxDepth + levels⟩ .property (path.child name) (depth + levels) child =
        raised levels (typeOf ⟨computed, maxDepth⟩ .property (path.child name) depth child)) :
    recordOf ⟨computed, maxDepth + levels⟩ path (depth + levels) node =
      raised levels (recordOf ⟨computed, maxDepth⟩ path depth node) := by
  have fields : node.properties.mapM
        (fieldOf ⟨computed, maxDepth + levels⟩ node.required path (depth + levels)) =
      raised levels (node.properties.mapM
        (fieldOf ⟨computed, maxDepth⟩ node.required path depth)) :=
    mapM_raised fun entry member => fieldOf_raised (shapes entry.1 entry.2 member)
  unfold recordOf
  rw [enter_raised, fields]
  simp only [raised_bind]
  rfl

theorem collection_raised {collection : TypeDescriptor → TypeDescriptor} {fault : ShapeFault}
    {inner : SchemaNode} (other : ∀ limit, fault ≠ .tooDeep limit)
    (elements : typeOf ⟨computed, maxDepth + levels⟩ .element path (depth + levels) inner =
      raised levels (typeOf ⟨computed, maxDepth⟩ .element path depth inner)) :
    typeOf ⟨computed, maxDepth + levels⟩ .element path (depth + levels) inner >>=
        collectionOf collection fault path =
      raised levels (typeOf ⟨computed, maxDepth⟩ .element path depth inner >>=
        collectionOf collection fault path) := by
  have collected (element : TypeDescriptor × List Property) :
      raised levels (collectionOf collection fault path element) =
        collectionOf collection fault path element := by
    unfold collectionOf
    split
    · rfl
    · rw [raised_error, CompileError.raiseLimit_shape other]
  rw [elements, raised_bind]
  simp only [collected]

theorem raiseLimit_faulty {node : SchemaNode} {fault : ShapeFault}
    (form : node.form = .faulty fault) :
    CompileError.raiseLimit levels (.shape path fault) = .shape path fault := by
  apply CompileError.raiseLimit_shape
  rintro limit rfl
  exact form_ne_tooDeep form

theorem typeOf_raised {position : Position} (node : SchemaNode) :
    typeOf ⟨computed, maxDepth + levels⟩ position path (depth + levels) node =
      raised levels (typeOf ⟨computed, maxDepth⟩ position path depth node) := by
  induction node using formInduction generalizing position path depth with
  | scalar node kind form =>
      rw [typeOf_eq, typeOf_eq, form]
      rfl
  | fieldless node form =>
      rw [typeOf_eq, typeOf_eq, form]
      cases position <;> rfl
  | record node form induction =>
      have fields : recordOf ⟨computed, maxDepth + levels⟩ path (depth + 1 + levels) node =
          raised levels (recordOf ⟨computed, maxDepth⟩ path (depth + 1) node) :=
        recordOf_raised fun name child member => induction name child member
      rw [typeOf_eq, typeOf_eq, form, Nat.add_right_comm]
      simp only [fields, raised_map]
  | map node values form induction =>
      rw [typeOf_eq, typeOf_eq, form]
      exact collection_raised (by simp) induction
  | list node elements form induction =>
      rw [typeOf_eq, typeOf_eq, form]
      exact collection_raised (by simp) induction
  | faulty node fault form =>
      rw [typeOf_eq, typeOf_eq, form]
      simp only [raised_error, raiseLimit_faulty form]

end Resolver

namespace Assembly

open Resolver SchemaNode

variable {node : SchemaNode}

theorem checkRoot_of_inhabited (path : SchemaPath)
    (typed : node.type = none ∨ node.type = some "object") (inhabited : node.properties ≠ []) :
    (node.form = .record ∧ checkRoot node path = .ok ()) ∨
      ∃ fault, node.form = .faulty fault ∧ checkRoot node path = .error (.shape path fault) := by
  rcases typed with untyped | isObject
  · refine .inr ⟨.untyped, form_eq_iff.mpr (.untyped untyped), ?_⟩
    simp [checkRoot, untyped]
  by_cases closed : node.HasNoValueSchema
  · exact .inl ⟨form_eq_iff.mpr (.record isObject closed inhabited),
      checkRoot_eq_ok.mpr ⟨isObject, closed⟩⟩
  right
  cases valued : node.additionalProperties with
  | absent => exact absurd (.inl valued) closed
  | flag allowed =>
      cases allowed with
      | false => exact absurd (.inr valued) closed
      | true =>
          refine ⟨.untypedValues, form_eq_iff.mpr (.untypedValues isObject valued), ?_⟩
          simp [checkRoot, isObject, valueSchema?, valued]
  | schema values =>
      refine ⟨.fieldsAndValues, form_eq_iff.mpr (.fieldsAndValues isObject valued inhabited), ?_⟩
      simp [checkRoot, isObject, valueSchema?, valued, inhabited]

/-- An object with properties resolves as the root of a subtree and as a shape to the same fields,
or it fails both ways with the same error, in which a limit that is exceeded differs by one. -/
theorem root_agrees_with_shape (typed : node.type = none ∨ node.type = some "object")
    (inhabited : node.properties ≠ []) (computed : Bool) (maxDepth : Nat) (path : SchemaPath) :
    (∃ fields,
      (do checkRoot node path; resolveProperties ⟨computed, maxDepth⟩ node path) = .ok fields ∧
        resolveType ⟨computed, maxDepth + 1⟩ node path = .ok (.struct, fields)) ∨
      ∃ fault,
        (do checkRoot node path; resolveProperties ⟨computed, maxDepth⟩ node path) =
            .error fault ∧
          resolveType ⟨computed, maxDepth + 1⟩ node path = .error (fault.raiseLimit 1) ∧
          (fault.raiseLimit 1).kind = fault.kind ∧ (fault.raiseLimit 1).path? = fault.path? := by
  rw [resolveType, typeOf_eq, resolveProperties_eq]
  rcases checkRoot_of_inhabited path typed inhabited with ⟨form, checked⟩ | ⟨fault, form, checked⟩
  · have deeper : recordOf ⟨computed, maxDepth + 1⟩ path (0 + 1) node =
        raised 1 (recordOf ⟨computed, maxDepth⟩ path 0 node) :=
      recordOf_raised fun _ child _ => typeOf_raised child
    rw [form, checked]
    simp only [deeper, Outcome.ok_bind]
    cases recordOf ⟨computed, maxDepth⟩ path 0 node with
    | ok fields => exact .inl ⟨fields, rfl, rfl⟩
    | error fault =>
        exact .inr ⟨fault, rfl, rfl, fault.kind_raiseLimit 1, fault.path?_raiseLimit 1⟩
  · have told : (CompileError.shape path fault).raiseLimit 1 = .shape path fault :=
      raiseLimit_faulty form
    rw [form, checked]
    exact .inr ⟨.shape path fault, rfl, congrArg Except.error told.symm,
      CompileError.kind_raiseLimit 1 _, CompileError.path?_raiseLimit 1 _⟩

/-- A volume with a class and, one level further down, the snapshot that it is made from. -/
def volumeSchema : SchemaNode where
  type := some "object"
  properties := [
    ("source", { type := some "object", properties := [("snapshot", { type := some "string" })] }),
    ("class", { type := some "string" })]

theorem volumeSchema_agrees :
    volumeSchema.type = some "object" ∧ volumeSchema.properties ≠ [] ∧
      (∃ fields,
        (do checkRoot volumeSchema specPath
            resolveProperties ⟨false, 2⟩ volumeSchema specPath) = .ok fields ∧
          resolveType ⟨false, 3⟩ volumeSchema specPath = .ok (.struct, fields)) ∧
      (do checkRoot volumeSchema specPath
          resolveProperties ⟨false, 1⟩ volumeSchema specPath) =
        .error (.shape (specPath.child "source") (.tooDeep 1)) ∧
      resolveType ⟨false, 2⟩ volumeSchema specPath =
        .error (.shape (specPath.child "source") (.tooDeep 2)) := by
  have typed : volumeSchema.type = some "object" := rfl
  have inhabited : volumeSchema.properties ≠ [] := List.cons_ne_nil _ _
  have resolved : ∃ fields, (do
      checkRoot volumeSchema specPath
      resolveProperties ⟨false, 2⟩ volumeSchema specPath) = .ok fields := ⟨_, rfl⟩
  have refused : (do
      checkRoot volumeSchema specPath
      resolveProperties ⟨false, 1⟩ volumeSchema specPath) =
        .error (.shape (specPath.child "source") (.tooDeep 1)) := rfl
  refine ⟨typed, inhabited, ?_, refused, ?_⟩
  · rcases root_agrees_with_shape (.inr typed) inhabited false 2 specPath with
      agree | ⟨fault, failed, _⟩
    · exact agree
    · rcases resolved with ⟨fields, resolved⟩
      cases resolved.symm.trans failed
  · rcases root_agrees_with_shape (.inr typed) inhabited false 1 specPath with
      ⟨fields, resolved, _⟩ | ⟨fault, failed, shapeFailed, _⟩
    · cases refused.symm.trans resolved
    · cases refused.symm.trans failed
      exact shapeFailed

end Assembly

end CrdCompiler
