import CrdCompiler.Proofs.Assembling
import CrdCompiler.Proofs.Decoding
import CrdCompiler.Proofs.Dialect

/-! # Acceptance

The compiler accepts the schema dialect and nothing else. Whether a node is accepted depends on the
depth that it stands at, but not on its path.
-/

namespace CrdCompiler

namespace Dialect

/-! ## Values -/

theorem ofRaw?_isSome_iff {kind : ScalarKind} {raw : Json} :
    (∃ literal, Literal.ofRaw? kind raw = some literal) ↔ Decodes kind raw := by
  constructor
  · intro holds
    rcases holds with ⟨literal, decoded⟩
    unfold Literal.ofRaw? at decoded
    split at decoded
    · exact .string _
    · rename_i number
      rcases Option.map_eq_some_iff.mp decoded with ⟨word, found, _⟩
      cases number with
      | float value => cases found
      | integer number => exact .int64 number (int64OfInt?_eq_some_iff.mp found).1.2
    · exact .float64 _
    · exact .bool _
    · cases decoded
  · intro decodes
    cases decodes with
    | string text => exact ⟨_, rfl⟩
    | int64 number fits =>
        have found : number.toInt64? = some (.ofInt number.value) :=
          int64OfInt?_eq_some_iff.mpr ⟨⟨number.fits.1, fits⟩, rfl⟩
        exact ⟨.int64 (.ofInt number.value), by simp [Literal.ofRaw?, JsonNumber.toInt64?, found]⟩
    | float64 number => exact ⟨_, rfl⟩
    | bool value => exact ⟨_, rfl⟩

theorem bound_succeeds_iff {kind : ScalarKind} (numeric : kind = .int64 ∨ kind = .float64)
    {value : Binary64} {path : SchemaPath} {side : BoundSide} :
    (∃ literal, Metadata.bound value kind path side = .ok literal) ↔ BoundFits kind value := by
  rcases numeric with rfl | rfl
  · constructor
    · intro holds
      rcases holds with ⟨literal, bounded⟩
      rcases Metadata.bound_int64_eq_ok.mp bounded with ⟨number, whole, finite, exact, range, _⟩
      exact ⟨number, finite, fun _ => ⟨whole, exact, range⟩⟩
    · intro holds
      rcases holds with ⟨number, finite, integral⟩
      rcases integral rfl with ⟨whole, exact, range⟩
      exact ⟨_, Metadata.bound_int64_eq_ok.mpr ⟨number, whole, finite, exact, range, rfl⟩⟩
  · constructor
    · intro holds
      rcases holds with ⟨literal, bounded⟩
      rcases (Metadata.bound_float64_eq_ok.mp bounded).1 with ⟨number, finite⟩
      exact ⟨number, finite, nofun⟩
    · intro holds
      rcases holds with ⟨number, finite, _⟩
      exact ⟨.float64 value, Metadata.bound_float64_eq_ok.mpr ⟨⟨number, finite⟩, rfl⟩⟩

theorem decode_succeeds_iff {raw : Json} {kind : ScalarKind} {path : SchemaPath} {what : String} :
    (∃ literal, Metadata.decode raw kind path what = .ok literal) ↔ Decodes kind raw := by
  simp only [Metadata.decode_eq_ok, ofRaw?_isSome_iff]

theorem defaultOf_succeeds_iff {node : SchemaNode} {kind : ScalarKind} {path : SchemaPath} :
    (∃ default, Metadata.defaultOf node kind path = .ok default) ↔
      ∀ raw, node.default = some raw → Decodes kind raw := by
  unfold Metadata.defaultOf
  cases node.default with
  | none => simp
  | some raw =>
      rw [Outcome.map_succeeds_iff, decode_succeeds_iff]
      simp

theorem enumRules_succeeds_iff {node : SchemaNode} {kind : ScalarKind} {path : SchemaPath} :
    (∃ rules, Metadata.enumRules node kind path = .ok rules) ↔
      ∀ raw ∈ node.enum, Decodes kind raw := by
  unfold Metadata.enumRules
  split
  · rename_i empty
    rw [List.isEmpty_iff.mp empty]
    simp
  · rw [Metadata.decodeAll_eq_mapM, Outcome.map_succeeds_iff, Outcome.mapM_succeeds_iff]
    simp only [decode_succeeds_iff]

theorem movedBound_succeeds_iff {stated : Option Binary64} {move : Binary64 → Binary64}
    {kind : ScalarKind} (numeric : kind = .int64 ∨ kind = .float64) {path : SchemaPath}
    {side : BoundSide} :
    (∃ literal, Metadata.movedBound stated move kind path side = .ok literal) ↔
      ∀ value, stated = some value → BoundFits kind (move value) := by
  cases stated with
  | none => simp [Metadata.movedBound]
  | some value =>
      rw [Metadata.movedBound, Outcome.map_succeeds_iff, bound_succeeds_iff numeric]
      simp

theorem kindRules_succeeds_iff {node : SchemaNode} {kind : ScalarKind} {path : SchemaPath} :
    (∃ rules, Metadata.kindRules node kind path = .ok rules) ↔
      (kind = .int64 ∨ kind = .float64 →
        (∃ least, Metadata.minimumOf node kind path = .ok least) ∧
          ∃ greatest, Metadata.maximumOf node kind path = .ok greatest) := by
  have numbers (kind : ScalarKind) :
      (∃ rules, Metadata.numberRules node kind path = .ok rules) ↔
        (∃ least, Metadata.minimumOf node kind path = .ok least) ∧
          ∃ greatest, Metadata.maximumOf node kind path = .ok greatest := by
    constructor
    · intro holds
      rcases holds with ⟨rules, derived⟩
      rcases Metadata.numberRules_eq_ok.mp derived with ⟨least, greatest, lower, upper, _⟩
      exact ⟨⟨least, lower⟩, greatest, upper⟩
    · intro holds
      rcases holds with ⟨⟨least, lower⟩, greatest, upper⟩
      exact ⟨_, Metadata.numberRules_eq_ok.mpr ⟨least, greatest, lower, upper, rfl⟩⟩
  cases kind with
  | string => simp [Metadata.kindRules]
  | int64 => simp [Metadata.kindRules, numbers]
  | float64 => simp [Metadata.kindRules, numbers]
  | bool => simp [Metadata.kindRules]

theorem derive_scalar_succeeds_iff {node : SchemaNode} {required : Bool} {kind : ScalarKind}
    {path : SchemaPath} :
    (∃ metadata, Metadata.derive node required (some kind) path = .ok metadata) ↔
      ValuesFit kind node := by
  constructor
  · intro holds
    rcases holds with ⟨metadata, derived⟩
    rcases Metadata.derive_scalar_eq_ok.mp derived with ⟨default, rules, decoded, validated, _⟩
    rcases Metadata.validatorsOf_eq_ok.mp validated with ⟨allowed, others, enumerated, bounded, _⟩
    have bounds := kindRules_succeeds_iff.mp ⟨others, bounded⟩
    exact {
      default := defaultOf_succeeds_iff.mp ⟨default, decoded⟩
      enum := enumRules_succeeds_iff.mp ⟨allowed, enumerated⟩
      minimum := fun numeric => (movedBound_succeeds_iff numeric).mp (bounds numeric).1
      maximum := fun numeric => (movedBound_succeeds_iff numeric).mp (bounds numeric).2 }
  · intro fit
    rcases defaultOf_succeeds_iff.mpr fit.default with ⟨default, decoded⟩
    rcases enumRules_succeeds_iff.mpr fit.enum with ⟨allowed, enumerated⟩
    have bounds : kind = .int64 ∨ kind = .float64 →
        (∃ least, Metadata.minimumOf node kind path = .ok least) ∧
          ∃ greatest, Metadata.maximumOf node kind path = .ok greatest := fun numeric =>
      ⟨(movedBound_succeeds_iff numeric).mpr (fit.minimum numeric),
        (movedBound_succeeds_iff numeric).mpr (fit.maximum numeric)⟩
    rcases kindRules_succeeds_iff.mpr bounds with ⟨others, bounded⟩
    exact ⟨_, Metadata.derive_scalar_eq_ok.mpr ⟨default, allowed ++ others, decoded,
      Metadata.validatorsOf_eq_ok.mpr ⟨allowed, others, enumerated, bounded, rfl⟩, rfl⟩⟩

/-! ## Shapes -/

theorem fieldOf_succeeds_iff {resolver : Resolver} {required : List String} {path : SchemaPath}
    {depth : Nat} {name : String} {node : SchemaNode} :
    (∃ property, resolver.fieldOf required path depth (name, node) = .ok property) ↔
      (∃ shape, resolver.typeOf .property (path.child name) depth node = .ok shape) ∧
        Values node := by
  constructor
  · intro holds
    rcases holds with ⟨property, resolved⟩
    rcases Resolver.fieldOf_eq_ok.mp resolved with ⟨type, children, metadata, shaped, derived, _⟩
    refine ⟨⟨_, shaped⟩, fun kind typed => ?_⟩
    rw [(Resolver.typeOf_eq_ok.mp shaped).scalarKind?_eq_some_iff.mpr typed] at derived
    exact derive_scalar_succeeds_iff.mp ⟨metadata, derived⟩
  · intro holds
    rcases holds with ⟨⟨⟨type, children⟩, shaped⟩, values⟩
    have derives : ∃ metadata, Metadata.derive node (required.contains name) type.scalarKind?
        (path.child name) = .ok metadata := by
      cases scalar : type.scalarKind? with
      | none => exact ⟨_, rfl⟩
      | some kind =>
          have typed := (Resolver.typeOf_eq_ok.mp shaped).scalarKind?_eq_some_iff.mp scalar
          exact derive_scalar_succeeds_iff.mpr (values kind typed)
    rcases derives with ⟨metadata, derived⟩
    exact ⟨_, Resolver.fieldOf_eq_ok.mpr ⟨type, children, metadata, shaped, derived, rfl⟩⟩

theorem recordOf_succeeds_iff {resolver : Resolver} {path : SchemaPath} {depth : Nat}
    {node : SchemaNode} :
    (∃ siblings, resolver.recordOf path depth node = .ok siblings) ↔
      depth < resolver.maxDepth ∧ ∀ name child, (name, child) ∈ node.properties →
        (∃ shape, resolver.typeOf .property (path.child name) depth child = .ok shape) ∧
          Values child := by
  have resolves : (∃ siblings, resolver.recordOf path depth node = .ok siblings) ↔
      depth < resolver.maxDepth ∧ ∃ fields,
        node.properties.mapM (resolver.fieldOf node.required path depth) = .ok fields := by
    simp only [Resolver.recordOf_eq_ok]
    constructor
    · intro holds
      rcases holds with ⟨_, shallow, fields, resolved, _⟩
      exact ⟨shallow, fields, resolved⟩
    · intro holds
      rcases holds with ⟨shallow, fields, resolved⟩
      exact ⟨_, shallow, fields, resolved, rfl⟩
  rw [resolves, Outcome.mapM_succeeds_iff, Prod.forall]
  simp only [fieldOf_succeeds_iff]

/-- The resolver gives a node a shape that may stand at a position. -/
def Accepts (resolver : Resolver) (position : Resolver.Position) (path : SchemaPath) (depth : Nat)
    (node : SchemaNode) : Prop :=
  ∃ shape, resolver.typeOf position path depth node = .ok shape ∧
    (position = .element → shape.1.isElement)

theorem accepts_property_iff {resolver : Resolver} {path : SchemaPath} {depth : Nat}
    {node : SchemaNode} :
    Accepts resolver .property path depth node ↔
      ∃ shape, resolver.typeOf .property path depth node = .ok shape := by
  simp [Accepts]

theorem collectionOf_succeeds_iff {resolver : Resolver} {path : SchemaPath} {depth : Nat}
    {node : SchemaNode} {collection : TypeDescriptor → TypeDescriptor} {fault : ShapeFault} :
    (∃ shape, (do
      let element ← resolver.typeOf .element path depth node
      Resolver.collectionOf collection fault path element) = .ok shape) ↔
        Accepts resolver .element path depth node := by
  constructor
  · intro holds
    rcases holds with ⟨shape, success⟩
    rcases Outcome.bind_eq_ok.mp success with ⟨element, shaped, collected⟩
    exact ⟨element, shaped, fun _ => (Resolver.collectionOf_eq_ok.mp collected).1⟩
  · intro holds
    rcases holds with ⟨element, shaped, plain⟩
    exact ⟨_, Outcome.bind_eq_ok.mpr
      ⟨element, shaped, Resolver.collectionOf_eq_ok.mpr ⟨plain rfl, rfl⟩⟩⟩

theorem accepts_property_iff_form {resolver : Resolver} {path : SchemaPath} {depth : Nat}
    {node : SchemaNode} :
    Accepts resolver .property path depth node ↔
      match node.form with
      | .scalar _ => True
      | .fieldless => False
      | .record => ∃ siblings, resolver.recordOf path (depth + 1) node = .ok siblings
      | .map values => Accepts resolver .element path depth values
      | .list elements => Accepts resolver .element path depth elements
      | .faulty _ => False := by
  rw [accepts_property_iff, Resolver.typeOf_eq]
  cases form : node.form with
  | scalar kind => simp
  | fieldless => simp
  | record => exact Outcome.map_succeeds_iff
  | map values => exact collectionOf_succeeds_iff
  | list elements => exact collectionOf_succeeds_iff
  | faulty fault => simp

theorem accepts_element_iff_form {resolver : Resolver} {path : SchemaPath} {depth : Nat}
    {node : SchemaNode} :
    Accepts resolver .element path depth node ↔
      match node.form with
      | .scalar _ => True
      | .fieldless => True
      | .record => ∃ siblings, resolver.recordOf path (depth + 1) node = .ok siblings
      | _ => False := by
  rw [Accepts]
  constructor
  · intro holds
    rcases holds with ⟨⟨type, children⟩, success, plain⟩
    cases Resolver.typeOf_eq_ok.mp success with
    | scalar form => simp [form]
    | fieldless form => simp [form]
    | record form fields =>
        rw [form]
        exact ⟨children, fields⟩
    | map form element plain' => cases plain rfl
    | list form element plain' => cases plain rfl
  · cases form : node.form with
    | scalar kind => exact fun _ => ⟨_, Resolver.typeOf_eq_ok.mpr (.scalar form), fun _ => rfl⟩
    | fieldless => exact fun _ => ⟨_, Resolver.typeOf_eq_ok.mpr (.fieldless form), fun _ => rfl⟩
    | record =>
        intro holds
        rcases holds with ⟨siblings, fields⟩
        exact ⟨_, Resolver.typeOf_eq_ok.mpr (.record form fields), fun _ => rfl⟩
    | map values => exact False.elim
    | list elements => exact False.elim
    | faulty fault => exact False.elim

theorem recordOf_succeeds_iff_fields {resolver : Resolver} {node : SchemaNode}
    (children : ∀ name child, (name, child) ∈ node.properties → ∀ path depth,
      Accepts resolver .property path depth child ↔ Shape resolver.maxDepth child depth)
    {path : SchemaPath} {depth : Nat} :
    (∃ siblings, resolver.recordOf path depth node = .ok siblings) ↔
      Fields resolver.maxDepth node depth := by
  rw [recordOf_succeeds_iff, fields_iff]
  apply and_congr_right
  intro _
  apply forall_congr'
  intro name
  apply forall_congr'
  intro child
  apply forall_congr'
  intro member
  rw [← children name child member (path.child name) depth, accepts_property_iff]

/-- A node is accepted at a position exactly when the rule for that position holds of it. -/
theorem accepts_iff (resolver : Resolver) (node : SchemaNode) : ∀ path depth,
    (Accepts resolver .property path depth node ↔ Shape resolver.maxDepth node depth) ∧
      (Accepts resolver .element path depth node ↔ Element resolver.maxDepth node depth) := by
  induction node using SchemaNode.formInduction with
  | scalar node kind form =>
      intro path depth
      rw [accepts_property_iff_form, accepts_element_iff_form, shape_iff_form, element_iff_form,
        form]
      exact ⟨Iff.rfl, Iff.rfl⟩
  | fieldless node form =>
      intro path depth
      rw [accepts_property_iff_form, accepts_element_iff_form, shape_iff_form, element_iff_form,
        form]
      exact ⟨Iff.rfl, Iff.rfl⟩
  | record node form induction =>
      intro path depth
      have fields : (∃ siblings, resolver.recordOf path (depth + 1) node = .ok siblings) ↔
          Fields resolver.maxDepth node (depth + 1) :=
        recordOf_succeeds_iff_fields fun name child member path depth =>
          (induction name child member path depth).1
      rw [accepts_property_iff_form, accepts_element_iff_form, shape_iff_form, element_iff_form,
        form]
      exact ⟨fields, fields⟩
  | map node values form induction =>
      intro path depth
      rw [accepts_property_iff_form, accepts_element_iff_form, shape_iff_form, element_iff_form,
        form]
      exact ⟨(induction path depth).2, Iff.rfl⟩
  | list node elements form induction =>
      intro path depth
      rw [accepts_property_iff_form, accepts_element_iff_form, shape_iff_form, element_iff_form,
        form]
      exact ⟨(induction path depth).2, Iff.rfl⟩
  | faulty node fault form =>
      intro path depth
      rw [accepts_property_iff_form, accepts_element_iff_form, shape_iff_form, element_iff_form,
        form]
      exact ⟨Iff.rfl, Iff.rfl⟩

theorem resolveProperties_succeeds_iff (resolver : Resolver) (node : SchemaNode)
    (path : SchemaPath) :
    (∃ properties, resolver.resolveProperties node path = .ok properties) ↔
      Fields resolver.maxDepth node 0 := by
  rw [Resolver.resolveProperties_eq]
  exact recordOf_succeeds_iff_fields fun _ child _ path depth =>
    (accepts_iff resolver child path depth).1

/-! ## Definitions -/

theorem assemble_succeeds_iff {definition : CustomResourceDefinition} {maxDepth : Nat} :
    (∃ document, assemble definition maxDepth = .ok document) ↔
      Definition maxDepth definition := by
  simp only [Assembly.assemble_eq_ok, Assembly.subtrees_eq_ok, List.head?_eq_some_iff]
  constructor
  · intro holds
    rcases holds with ⟨_, version, spec', status', _, _, ⟨others, first⟩, ⟨schema, spec, status,
      declared, specDeclared, statusDeclared, specRoot, statusRoot, split⟩, specResolved,
      statusResolved, _⟩
    cases split
    exact .intro first declared specDeclared statusDeclared specRoot statusRoot
      ((resolveProperties_succeeds_iff _ _ _).mp ⟨_, specResolved⟩)
      ((resolveProperties_succeeds_iff _ _ _).mp ⟨_, statusResolved⟩)
  · intro holds
    rcases holds with @⟨version, others, schema, spec, status, first, declared, specDeclared,
      statusDeclared, specRoot, statusRoot, specFields, statusFields⟩
    rcases (resolveProperties_succeeds_iff ⟨false, maxDepth⟩ _ Assembly.specPath).mpr specFields
      with ⟨specProperties, specResolved⟩
    rcases (resolveProperties_succeeds_iff ⟨true, maxDepth⟩ _ Assembly.statusPath).mpr statusFields
      with ⟨statusProperties, statusResolved⟩
    exact ⟨_, version, _, _, specProperties, statusProperties, ⟨others, first⟩,
      ⟨schema, spec, status, declared, specDeclared, statusDeclared, specRoot, statusRoot, rfl⟩,
      specResolved, statusResolved, rfl⟩

/-- The compiler accepts the dialect and nothing else, at every path and limit of nesting. -/
theorem accepts_exactly_dialect :
    (∀ resolver : Resolver, ∀ node path,
      (∃ properties, resolver.resolveProperties node path = .ok properties) ↔
        Fields resolver.maxDepth node 0) ∧
      ∀ definition maxDepth,
        (∃ document, assemble definition maxDepth = .ok document) ↔
          Definition maxDepth definition :=
  ⟨resolveProperties_succeeds_iff, fun _ _ => assemble_succeeds_iff⟩

end Dialect

end CrdCompiler
