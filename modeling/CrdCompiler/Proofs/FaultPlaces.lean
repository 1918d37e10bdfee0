import CrdCompiler.Proofs.Anchored
import CrdCompiler.Proofs.Decoding
import CrdCompiler.Proofs.Resolution

/-! # Places of faults

A schema that does not resolve is at fault at one place, given by the property names that lead to
it. The place and the cause depend on the schema alone; the start path stands in front of the names
and does nothing else. Depth and names grow together, because maps and lists add to neither.
-/

namespace CrdCompiler

namespace SchemaNode

/-- From a node to one inside it through values of maps and items of lists only. -/
inductive Hops : SchemaNode → SchemaNode → Prop where
  | here (node : SchemaNode) : Hops node node
  | items {node elements inner : SchemaNode} (itemized : node.items = some elements)
      (further : Hops elements inner) : Hops node inner
  | values {node values inner : SchemaNode} (valued : node.additionalProperties = .schema values)
      (further : Hops values inner) : Hops node inner

/-- The names of properties that lead from a node to the last of them. Between two names the way
goes through maps and lists. -/
inductive Leads : SchemaNode → List String → SchemaNode → Prop where
  | key {node child : SchemaNode} {name : String} (member : (name, child) ∈ node.properties) :
      Leads node [name] child
  | onward {node child owner last : SchemaNode} {name : String} {names : List String}
      (member : (name, child) ∈ node.properties) (hops : child.Hops owner)
      (further : owner.Leads names last) : Leads node (name :: names) last

/-- Names and a cause that fit a fault below a node at a depth: the names lead somewhere, at most
down to the limit, and only a scalar has a faulty value. -/
structure FaultAt (limit depth : Nat) (node : SchemaNode) (names : List String) (cause : Cause) :
    Prop where
  leads : names = [] ∨ ∃ last, node.Leads names last
  reaches : depth + names.length ≤ limit
  scalar : ∀ fault, cause = .value fault →
    ∃ (last : SchemaNode) (kind : ScalarKind), node.Leads names last ∧
      last.type = some kind.schemaType
  deepest : ∀ bound, cause = .shape (.tooDeep bound) →
    bound = limit ∧ depth + names.length = limit

theorem FaultAt.here {limit depth : Nat} {node : SchemaNode} {fault : ShapeFault}
    (reached : depth ≤ limit)
    (deepest : ∀ bound, fault = .tooDeep bound → bound = limit ∧ depth = limit) :
    node.FaultAt limit depth [] (.shape fault) where
  leads := .inl rfl
  reaches := reached
  scalar := by
    intro _ impossible
    cases impossible
  deepest := by
    intro bound same
    cases same
    exact deepest bound rfl

theorem FaultAt.below {limit depth : Nat} {node child owner : SchemaNode} {name : String}
    {names : List String} {cause : Cause} (member : (name, child) ∈ node.properties)
    (hops : child.Hops owner) (inner : owner.FaultAt limit (depth + 1) names cause) :
    node.FaultAt limit depth (name :: names) cause where
  leads := by
    right
    rcases inner.leads with rfl | ⟨last, further⟩
    · exact ⟨child, .key member⟩
    · exact ⟨last, .onward member hops further⟩
  reaches := by
    have reached := inner.reaches
    rw [List.length_cons]
    omega
  scalar := by
    intro fault same
    rcases inner.scalar fault same with ⟨last, kind, further, typed⟩
    exact ⟨last, kind, .onward member hops further, typed⟩
  deepest := by
    intro bound same
    rcases inner.deepest bound same with ⟨limited, reached⟩
    rw [List.length_cons]
    exact ⟨limited, by omega⟩

theorem FaultAt.value {limit depth : Nat} {node child : SchemaNode} {name : String}
    {kind : ScalarKind} {fault : ValueFault} (shallow : depth < limit)
    (member : (name, child) ∈ node.properties) (typed : child.type = some kind.schemaType) :
    node.FaultAt limit depth [name] (.value fault) where
  leads := .inr ⟨child, .key member⟩
  reaches := shallow
  scalar := by
    intro _ _
    exact ⟨child, kind, .key member, typed⟩
  deepest := by
    intro _ impossible
    cases impossible

theorem form_ne_tooDeep {node : SchemaNode} {bound : Nat} :
    node.form ≠ .faulty (.tooDeep bound) := by
  intro formed
  cases form_eq_iff.mp formed

end SchemaNode

/-! ## Values -/

namespace Metadata

def ValueOnly (names : List String) (cause : Cause) : Prop :=
  names = [] ∧ ∃ fault, cause = .value fault

theorem decode_anchored (raw : Json) (kind : ScalarKind) (what : String) :
    Anchored ValueOnly fun path => decode raw kind path what := by
  unfold decode
  cases Literal.ofRaw? kind raw with
  | some literal => exact .ok literal
  | none => exact .error (.value _) ⟨rfl, _, rfl⟩

theorem bound_anchored (value : Binary64) (kind : ScalarKind) (side : BoundSide) :
    Anchored ValueOnly fun path => bound value kind path side := by
  cases value with
  | nan => exact .error (.value _) ⟨rfl, _, rfl⟩
  | infinite negative => exact .error (.value _) ⟨rfl, _, rfl⟩
  | finite number =>
      by_cases float : kind = .float64
      · simp only [bound, float, if_true]
        exact .ok _
      · simp only [bound, float, if_false]
        split
        · exact .error (.value _) ⟨rfl, _, rfl⟩
        · exact .ok _

theorem movedBound_anchored (stated : Option Binary64) (move : Binary64 → Binary64)
    (kind : ScalarKind) (side : BoundSide) :
    Anchored ValueOnly fun path => movedBound stated move kind path side := by
  cases stated with
  | none => exact .ok none
  | some value => exact (bound_anchored (move value) kind side).map some

theorem defaultOf_anchored (node : SchemaNode) (kind : ScalarKind) :
    Anchored ValueOnly (defaultOf node kind) := by
  unfold defaultOf
  cases node.default with
  | none => exact .ok none
  | some raw => exact (decode_anchored raw kind "default").map some

theorem enumRules_anchored (node : SchemaNode) (kind : ScalarKind) :
    Anchored ValueOnly (enumRules node kind) := by
  unfold enumRules
  split
  · exact .ok []
  · simp only [decodeAll_eq_mapM]
    apply Anchored.map
    apply Anchored.mapM
    intro raw _
    exact decode_anchored raw kind "enum value"

theorem numberRules_anchored (node : SchemaNode) (kind : ScalarKind) :
    Anchored ValueOnly (numberRules node kind) := by
  simp only [funext (numberRules_eq node kind)]
  apply (movedBound_anchored _ _ kind .minimum).bind
  intro least _
  apply (movedBound_anchored _ _ kind .maximum).bind
  intro greatest _
  exact .ok _

theorem kindRules_anchored (node : SchemaNode) (kind : ScalarKind) :
    Anchored ValueOnly (kindRules node kind) := by
  cases kind with
  | string => exact .ok (textRules node)
  | int64 => exact numberRules_anchored node .int64
  | float64 => exact numberRules_anchored node .float64
  | bool => exact .ok []

theorem derive_anchored (node : SchemaNode) (required : Bool) (kind? : Option ScalarKind) :
    Anchored (fun names cause => ValueOnly names cause ∧ kind?.isSome)
      (derive node required kind?) := by
  cases kind? with
  | none => exact .ok _
  | some kind =>
      have anchored : Anchored ValueOnly (derive node required (some kind)) := by
        apply (defaultOf_anchored node kind).bind
        intro default _
        apply Anchored.bind
        · apply (enumRules_anchored node kind).bind
          intro allowed _
          apply (kindRules_anchored node kind).bind
          intro others _
          exact .ok _
        · intro validators _
          exact .ok _
      apply anchored.mono
      intro names cause faulty
      exact ⟨faulty, rfl⟩

end Metadata

/-! ## Shapes -/

namespace Resolver

open SchemaNode

variable {resolver : Resolver}

/-- A fault of the shape of a node at a depth: at the node or at one that collections lead to. -/
def ShapeFaulty (limit depth : Nat) (node : SchemaNode) (names : List String) (cause : Cause) :
    Prop :=
  ∃ owner, node.Hops owner ∧ owner.FaultAt limit (depth + 1) names cause

theorem collectionOf_anchored {collection : TypeDescriptor → TypeDescriptor} {fault : ShapeFault}
    {depth limit : Nat} {node : SchemaNode} (element : TypeDescriptor × List Property)
    (shallow : depth < limit) (plain : ∀ bound, fault ≠ .tooDeep bound) :
    Anchored (ShapeFaulty limit depth node) fun path =>
      collectionOf collection fault path element := by
  unfold collectionOf
  split
  · exact .ok _
  · apply Anchored.error (.shape fault)
    refine ⟨node, .here node, .here shallow ?_⟩
    intro bound same
    exact absurd same (plain bound)

theorem collection_anchored {collection : TypeDescriptor → TypeDescriptor} {fault : ShapeFault}
    {depth : Nat} {node inner : SchemaNode} (shallow : depth < resolver.maxDepth)
    (plain : ∀ bound, fault ≠ .tooDeep bound)
    (outward : ∀ owner, inner.Hops owner → node.Hops owner)
    (elements : Anchored (ShapeFaulty resolver.maxDepth depth inner) fun path =>
      resolver.typeOf .element path depth inner) :
    Anchored (ShapeFaulty resolver.maxDepth depth node) fun path =>
      resolver.typeOf .element path depth inner >>= collectionOf collection fault path := by
  have outer : Anchored (ShapeFaulty resolver.maxDepth depth node) fun path =>
      resolver.typeOf .element path depth inner := by
    apply elements.mono
    intro names cause faulty
    rcases faulty with ⟨owner, hops, located⟩
    exact ⟨owner, outward owner hops, located⟩
  apply outer.bind
  intro element _
  exact collectionOf_anchored element shallow plain

theorem fieldOf_anchored {required : List String} {depth : Nat} {node child : SchemaNode}
    {name : String} (shallow : depth < resolver.maxDepth)
    (member : (name, child) ∈ node.properties)
    (shape : Anchored (ShapeFaulty resolver.maxDepth depth child) fun path =>
      resolver.typeOf .property path depth child) :
    Anchored (node.FaultAt resolver.maxDepth depth) fun path =>
      resolver.fieldOf required path depth (name, child) := by
  have shaped : Anchored (fun names => node.FaultAt resolver.maxDepth depth (name :: names))
      fun path => resolver.typeOf .property path depth child := by
    apply shape.mono
    intro names cause faulty
    rcases faulty with ⟨owner, hops, inner⟩
    exact .below member hops inner
  have described (typed : TypeDescriptor × List Property)
      (resolved : ∀ path, resolver.typeOf .property path depth child = .ok typed) :
      Anchored (fun names => node.FaultAt resolver.maxDepth depth (name :: names))
        (Metadata.derive child (required.contains name) typed.1.scalarKind?) := by
    apply (Metadata.derive_anchored child _ _).mono
    intro names cause faulty
    rcases faulty with ⟨⟨rfl, fault, rfl⟩, scalar⟩
    rcases Option.isSome_iff_exists.mp scalar with ⟨kind, found⟩
    have shapes := typeOf_eq_ok.mp (resolved .empty)
    exact .value shallow member (shapes.scalarKind?_eq_some_iff.mp found)
  have made : Anchored (fun names => node.FaultAt resolver.maxDepth depth (name :: names))
      fun path => resolver.typeOf .property path depth child >>= fun typed =>
        Metadata.derive child (required.contains name) typed.1.scalarKind? path >>= fun metadata =>
          pure (resolver.propertyOf name typed.1 typed.2 metadata) := by
    apply shaped.bind
    intro typed resolved
    apply (described typed resolved).bind
    intro metadata _
    exact .ok _
  exact made.child

theorem recordOf_anchored {depth : Nat} {node : SchemaNode} (reached : depth ≤ resolver.maxDepth)
    (fields : depth < resolver.maxDepth → ∀ name child, (name, child) ∈ node.properties →
      Anchored (ShapeFaulty resolver.maxDepth depth child) fun path =>
        resolver.typeOf .property path depth child) :
    Anchored (node.FaultAt resolver.maxDepth depth) fun path =>
      resolver.recordOf path depth node := by
  unfold recordOf
  rcases Nat.lt_or_eq_of_le reached with shallow | bottom
  · have entered (path : SchemaPath) : resolver.enter path depth = .ok () := enter_eq_ok.mpr shallow
    simp only [entered, Outcome.ok_bind]
    apply Anchored.bind
    · apply Anchored.mapM
      intro entry member
      exact fieldOf_anchored shallow member (fields shallow entry.1 entry.2 member)
    · intro siblings _
      exact .ok _
  · have refused (path : SchemaPath) :
        resolver.enter path depth = .error (.shape path (.tooDeep resolver.maxDepth)) := by
      rw [enter, if_pos (Nat.le_of_eq bottom.symm)]
    simp only [refused]
    apply Anchored.error (.shape (.tooDeep resolver.maxDepth))
    apply FaultAt.here reached
    intro bound same
    cases same
    exact ⟨rfl, bottom⟩

theorem typeOf_anchored (node : SchemaNode) (position : Position) (depth : Nat)
    (shallow : depth < resolver.maxDepth) :
    Anchored (ShapeFaulty resolver.maxDepth depth node) fun path =>
      resolver.typeOf position path depth node := by
  -- The depth is free: a record goes on one deeper, a collection at the same depth.
  induction node using formInduction generalizing position depth with
  | scalar node kind form =>
      simp only [typeOf_eq, form]
      exact .ok _
  | fieldless node form =>
      simp only [typeOf_eq, form]
      cases position with
      | element => exact .ok _
      | property =>
          apply Anchored.error (.shape .noFields)
          exact ⟨node, .here node, .here shallow (by simp)⟩
  | record node form induction =>
      simp only [typeOf_eq, form]
      apply Anchored.map
      have fields := recordOf_anchored shallow fun deeper name child member =>
        induction name child member .property (depth + 1) deeper
      apply fields.mono
      intro names cause faulty
      exact ⟨node, .here node, faulty⟩
  | map node values form induction =>
      rw [funext fun path => typeOf_eq resolver position path depth node]
      simp only [form]
      cases form_eq_iff.mp form with
      | map typed valued empty =>
          apply collection_anchored shallow (by simp) _ (induction .element depth shallow)
          intro owner hops
          exact .values valued hops
  | list node elements form induction =>
      rw [funext fun path => typeOf_eq resolver position path depth node]
      simp only [form]
      cases form_eq_iff.mp form with
      | list typed itemized =>
          apply collection_anchored shallow (by simp) _ (induction .element depth shallow)
          intro owner hops
          exact .items itemized hops
  | faulty node fault form =>
      simp only [typeOf_eq, form]
      apply Anchored.error (.shape fault)
      refine ⟨node, .here node, .here shallow ?_⟩
      intro bound same
      cases same
      exact absurd form form_ne_tooDeep

theorem resolveProperties_anchored (resolver : Resolver) (node : SchemaNode) :
    Anchored (node.FaultAt resolver.maxDepth 0) (resolver.resolveProperties node) := by
  rw [funext fun path => resolveProperties_eq resolver node path]
  apply recordOf_anchored (Nat.zero_le _)
  intro shallow name child _
  exact typeOf_anchored child .property 0 shallow

/-- A schema resolves to the same properties under every start path, or it is at fault at one place
and for one cause under every start path. -/
theorem resolution_relocatable (resolver : Resolver) (node : SchemaNode) :
    (∃ properties, ∀ path, resolver.resolveProperties node path = .ok properties) ∨
      ∃ names cause, node.FaultAt resolver.maxDepth 0 names cause ∧
        ∀ path, resolver.resolveProperties node path =
          .error (cause.errorAt (path.descend names)) := by
  cases resolver.resolveProperties_anchored node with
  | result properties equal => exact .inl ⟨properties, equal⟩
  | fault names cause faulty equal => exact .inr ⟨names, cause, faulty, equal⟩

/-- A list of structures, one field of which has a default of another type. -/
def namedPortSchema : SchemaNode where
  properties := [("listeners", {
    type := some "array"
    items := some {
      type := some "object"
      properties := [("port", { type := some "integer", default := some (.string "http") })] } })]

-- The list adds no name and no level: two names and two levels lead to the port.
example (path : SchemaPath) : resolveProperties ⟨false, 2⟩ namedPortSchema path =
    .error (.value ((path.child "listeners").child "port")
      (.undecodable "default" (.string "http") .int64)) := rfl

example (path : SchemaPath) : resolveProperties ⟨false, 1⟩ namedPortSchema path =
    .error (.shape (path.child "listeners") (.tooDeep 1)) := rfl

end Resolver

end CrdCompiler
