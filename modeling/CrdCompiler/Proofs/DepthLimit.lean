import CrdCompiler.Proofs.Anchored
import CrdCompiler.Proofs.Shapes

/-! # The depth limit

A tree that resolves under one limit resolves to itself under every limit that its levels fit in.
Under a lower limit the resolver stops at the first record that stands as deep as the limit, so the
path of the error is longer than the start path by the limit.
-/

namespace CrdCompiler

namespace Property

mutual

def levelsBelow : Property → Nat
  | { children, .. } => if children.isEmpty then 0 else 1 + mostLevelsBelow children

def mostLevelsBelow : List Property → Nat
  | [] => 0
  | property :: rest => max property.levelsBelow (mostLevelsBelow rest)

end

/-- How many levels there are from siblings down, their own included. -/
def height (siblings : List Property) : Nat :=
  1 + mostLevelsBelow siblings

def fieldLevels (children : List Property) : Nat :=
  if children.isEmpty then 0 else height children

theorem levelsBelow_eq (property : Property) :
    property.levelsBelow = fieldLevels property.children := by
  cases property
  rw [levelsBelow]
  rfl

theorem mostLevelsBelow_perm {siblings reordered : List Property}
    (order : siblings.Perm reordered) : mostLevelsBelow siblings = mostLevelsBelow reordered := by
  induction order with
  | nil => rfl
  | cons property _ induction => rw [mostLevelsBelow, mostLevelsBelow, induction]
  | swap first second rest => simp only [mostLevelsBelow, max_left_comm]
  | trans _ _ first second => exact first.trans second

theorem height_sortSiblings (siblings : List Property) :
    height (sortSiblings siblings) = height siblings := by
  rw [height, height, mostLevelsBelow_perm (sortSiblings_perm siblings)]

end Property

namespace Resolver

open Property SchemaNode

/-- What comes, under a limit, of a value whose levels begin at a depth: the value if they fit, and
otherwise the fault of a record that stands as deep as the limit. -/
inductive Limited (limit depth : Nat) (path : SchemaPath) (levels : Nat) (value : α) :
    Except CompileError α → Prop where
  | whole (fits : depth + levels ≤ limit) : Limited limit depth path levels value (.ok value)
  | cut (names : List String) (exceeds : limit < depth + levels)
      (reached : depth + names.length = limit) :
      Limited limit depth path levels value
        (.error (.shape (path.descend names) (.tooDeep limit)))

namespace Limited

variable {limit depth levels more : Nat} {path : SchemaPath} {value : α}
  {outcome : Except CompileError α}

theorem bind {next : α → Except CompileError β} {result : β}
    (first : Limited limit depth path levels value outcome) (atMost : levels ≤ more)
    (continued : depth + levels ≤ limit → Limited limit depth path more result (next value)) :
    Limited limit depth path more result (outcome >>= next) := by
  cases first with
  | whole fits => exact continued fits
  | cut names exceeds reached => exact .cut names (by omega) reached

theorem map (limited : Limited limit depth path levels value outcome) (change : α → β) :
    Limited limit depth path levels (change value) (change <$> outcome) := by
  cases limited with
  | whole fits => exact .whole fits
  | cut names exceeds reached => exact .cut names exceeds reached

theorem child {name : String}
    (limited : Limited limit (depth + 1) (path.child name) levels value outcome) :
    Limited limit depth path (1 + levels) value outcome := by
  cases limited with
  | whole fits => exact .whole (by omega)
  | cut names exceeds reached =>
      rw [SchemaPath.descend_child]
      exact .cut (name :: names) (by omega) (by rw [List.length_cons]; omega)

theorem mapM {step : α → Except CompileError Property} {entries : List α} {fields : List Property}
    (shallow : depth < limit)
    (aligned : List.Forall₂ (fun entry field =>
      Limited limit depth path (1 + field.levelsBelow) field (step entry)) entries fields) :
    Limited limit depth path (height fields) fields (entries.mapM step) := by
  induction aligned with
  | nil => exact .whole shallow
  | @cons entry field entries fields first _ induction =>
      have most : height (field :: fields) =
          1 + max field.levelsBelow (mostLevelsBelow fields) := by
        rw [height, mostLevelsBelow]
      have others : height fields = 1 + mostLevelsBelow fields := rfl
      rw [List.mapM_cons]
      apply first.bind (by omega)
      intro firstFits
      apply induction.bind (by omega)
      intro othersFit
      exact .whole (by omega)

end Limited

variable {computed : Bool} {given limit : Nat} {path : SchemaPath} {depth : Nat}

theorem fieldOf_limited {required : List String} {entry : String × SchemaNode} {field : Property}
    (resolved : fieldOf ⟨computed, given⟩ required path depth entry = .ok field)
    (shapes : ∀ type children,
      typeOf ⟨computed, given⟩ .property (path.child entry.1) depth entry.2 = .ok (type, children) →
        Limited limit (depth + 1) (path.child entry.1) (fieldLevels children) (type, children)
          (typeOf ⟨computed, limit⟩ .property (path.child entry.1) depth entry.2)) :
    Limited limit depth path (1 + field.levelsBelow) field
      (fieldOf ⟨computed, limit⟩ required path depth entry) := by
  rcases fieldOf_eq_ok.mp resolved with ⟨type, children, metadata, shaped, derived, rfl⟩
  rw [levelsBelow_eq]
  apply (shapes type children shaped).child.bind le_rfl
  intro fits
  simp only [derived, Outcome.ok_bind]
  exact .whole fits

theorem recordOf_limited {node : SchemaNode} {siblings : List Property}
    (resolved : recordOf ⟨computed, given⟩ path depth node = .ok siblings) (reached : depth ≤ limit)
    (shapes : depth < limit → ∀ name child, (name, child) ∈ node.properties → ∀ type children,
      typeOf ⟨computed, given⟩ .property (path.child name) depth child = .ok (type, children) →
        Limited limit (depth + 1) (path.child name) (fieldLevels children) (type, children)
          (typeOf ⟨computed, limit⟩ .property (path.child name) depth child)) :
    Limited limit depth path (height siblings) siblings
      (recordOf ⟨computed, limit⟩ path depth node) := by
  rcases recordOf_eq_ok.mp resolved with ⟨_, fields, made, rfl⟩
  rw [height_sortSiblings]
  unfold recordOf
  rcases Nat.lt_or_eq_of_le reached with shallow | bottom
  · have entered : enter ⟨computed, limit⟩ path depth = .ok () := enter_eq_ok.mpr shallow
    have members : ∀ entry ∈ node.properties, entry ∈ node.properties := fun _ member => member
    rw [entered, Outcome.ok_bind]
    have aligned := (List.forall₂_and_left _ _).mpr ⟨members, Outcome.mapM_eq_ok.mp made⟩
    refine (Limited.mapM shallow (aligned.imp ?_)).map sortSiblings
    intro entry field holds
    rcases holds with ⟨member, resolvedField⟩
    exact fieldOf_limited resolvedField (shapes shallow entry.1 entry.2 member)
  · have refused : enter ⟨computed, limit⟩ path depth = .error (.shape path (.tooDeep limit)) := by
      rw [enter, if_pos (Nat.le_of_eq bottom.symm)]
    rw [refused, Outcome.error_bind]
    have exceeds : limit < depth + height fields := by
      rw [bottom, height]
      omega
    have here : Limited limit depth path (height fields) (sortSiblings fields) _ :=
      .cut [] exceeds bottom
    rwa [SchemaPath.descend_nil] at here

theorem collection_limited {collection : TypeDescriptor → TypeDescriptor} {fault : ShapeFault}
    {inner : SchemaNode} {type : TypeDescriptor} {children : List Property} (plain : type.isElement)
    (elements : Limited limit (depth + 1) path (fieldLevels children) (type, children)
      (typeOf ⟨computed, limit⟩ .element path depth inner)) :
    Limited limit (depth + 1) path (fieldLevels children) (collection type, children)
      (typeOf ⟨computed, limit⟩ .element path depth inner >>=
        collectionOf collection fault path) := by
  apply elements.bind le_rfl
  intro fits
  rw [collectionOf_eq_ok.mpr ⟨plain, rfl⟩]
  exact .whole fits

theorem typeOf_limited {position : Position} {node : SchemaNode} {type : TypeDescriptor}
    {children : List Property}
    (resolved : typeOf ⟨computed, given⟩ position path depth node = .ok (type, children))
    (shallow : depth < limit) :
    Limited limit (depth + 1) path (fieldLevels children) (type, children)
      (typeOf ⟨computed, limit⟩ position path depth node) := by
  -- Fields are one level deeper than the node whose shape they go with; collections add no level.
  induction node using formInduction generalizing position path depth type children with
  | scalar node kind form =>
      rw [typeOf_eq, form] at resolved ⊢
      cases resolved
      exact .whole shallow
  | fieldless node form =>
      rw [typeOf_eq, form] at resolved ⊢
      cases position with
      | property => cases resolved
      | element =>
          cases resolved
          exact .whole shallow
  | record node form induction =>
      rw [typeOf_eq, form] at resolved ⊢
      rcases Outcome.map_eq_ok.mp resolved with ⟨_, fields, shape⟩
      cases shape
      cases form_eq_iff.mp form with
      | record typed closed inhabited =>
          have levels : fieldLevels children = height children := by
            simp [fieldLevels, recordOf_ne_nil fields inhabited]
          rw [levels]
          apply Limited.map
          apply recordOf_limited fields shallow
          intro deeper name child member type children shaped
          exact induction name child member shaped deeper
  | map node values form induction =>
      rw [typeOf_eq, form] at resolved ⊢
      rcases Outcome.bind_eq_ok.mp resolved with ⟨_, element, collected⟩
      rcases collectionOf_eq_ok.mp collected with ⟨plain, shape⟩
      cases shape
      exact collection_limited plain (induction element shallow)
  | list node elements form induction =>
      rw [typeOf_eq, form] at resolved ⊢
      rcases Outcome.bind_eq_ok.mp resolved with ⟨_, element, collected⟩
      rcases collectionOf_eq_ok.mp collected with ⟨plain, shape⟩
      cases shape
      exact collection_limited plain (induction element shallow)
  | faulty node fault form =>
      rw [typeOf_eq, form] at resolved
      cases resolved

/-- Properties that resolve under some limit resolve alike under every limit that their levels fit
in. Under any other limit resolution stops for depth alone, at as many names as the limit. -/
theorem limit_only_refuses {node : SchemaNode} {properties : List Property}
    (resolved : resolveProperties ⟨computed, given⟩ node path = .ok properties) (limit : Nat) :
    (height properties ≤ limit → resolveProperties ⟨computed, limit⟩ node path = .ok properties) ∧
      (limit < height properties → ∃ names : List String, names.length = limit ∧
        resolveProperties ⟨computed, limit⟩ node path =
          .error (.shape (path.descend names) (.tooDeep limit))) := by
  have limited : Limited limit 0 path (height properties) properties
      (resolveProperties ⟨computed, limit⟩ node path) := by
    rw [resolveProperties_eq] at resolved ⊢
    apply recordOf_limited resolved (Nat.zero_le limit)
    intro shallow name child _ type children shaped
    exact typeOf_limited shaped shallow
  generalize resolveProperties ⟨computed, limit⟩ node path = outcome at limited
  cases limited with
  | whole fits => exact ⟨fun _ => rfl, fun exceeds => absurd exceeds (by omega)⟩
  | cut names exceeds reached =>
      exact ⟨fun fits => absurd fits (by omega), fun _ => ⟨names, by omega, rfl⟩⟩

/-- A list of structures with a map of structures in them, beside an object about which nothing is
known in a map of its own. -/
def routesSchema : SchemaNode where
  properties := [
    ("labels", {
      type := some "object"
      additionalProperties := .schema { type := some "object" } }),
    ("routes", {
      type := some "array"
      items := some {
        type := some "object"
        properties := [("headers", {
          type := some "object"
          additionalProperties := .schema {
            type := some "object"
            properties := [("value", { type := some "string" })] } })] } })]

theorem routesSchema_limited :
    ∃ properties, resolveProperties ⟨false, 32⟩ routesSchema (.root "spec") = .ok properties ∧
      height properties = 3 ∧
      resolveProperties ⟨false, 3⟩ routesSchema (.root "spec") = .ok properties ∧
      ∃ names : List String, names.length = 2 ∧
        resolveProperties ⟨false, 2⟩ routesSchema (.root "spec") =
          .error (.shape ((SchemaPath.root "spec").descend names) (.tooDeep 2)) := by
  have resolved : ∃ properties,
      resolveProperties ⟨false, 32⟩ routesSchema (.root "spec") = .ok properties := ⟨_, rfl⟩
  rcases resolved with ⟨properties, resolved⟩
  have levels : height properties = 3 := by
    cases resolved
    rw [height_sortSiblings]
    simp [height, mostLevelsBelow, levelsBelow, sortSiblings, propertyOf]
  refine ⟨properties, resolved, levels, ?_, ?_⟩
  · exact (limit_only_refuses resolved 3).1 levels.le
  · exact (limit_only_refuses resolved 2).2 (by omega)

end Resolver

end CrdCompiler
