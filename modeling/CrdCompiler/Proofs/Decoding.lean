import CrdCompiler.Metadata
import CrdCompiler.Proofs.Outcome
import CrdCompiler.Proofs.WordConversion

/-! # Decoding of literals and bounds

When a default, a member of an enumeration or a bound has a literal of a kind, and what the rules
of a node are once all of them have one.
-/

namespace CrdCompiler

theorem int64OfInt?_eq_some_iff {whole : Int} {word : Int64} :
    int64OfInt? whole = some word ↔
      (-9223372036854775808 ≤ whole ∧ whole < 9223372036854775808) ∧ .ofInt whole = word := by
  unfold int64OfInt?
  split <;> simp_all

theorem Integer64.toInt64?_ofInt64 (word : Int64) : (ofInt64 word).toInt64? = some word := by
  rw [toInt64?, int64OfInt?_eq_some_iff]
  exact ⟨⟨word.le_toInt, word.toInt_lt⟩, Int64.ofInt_toInt word⟩

theorem Integer64.toInt64?_eq_some_iff {number : Integer64} {word : Int64} :
    number.toInt64? = some word ↔ number = ofInt64 word := by
  constructor
  · intro found
    rcases int64OfInt?_eq_some_iff.mp found with ⟨range, rfl⟩
    have same := Int64.toInt_ofInt_of_le range.1 range.2
    cases number
    simp only [ofInt64, mk.injEq]
    exact same.symm
  · intro same
    rw [same, toInt64?_ofInt64]

namespace Metadata

theorem decode_eq_ok {raw : Json} {kind : ScalarKind} {path : SchemaPath} {what : String}
    {literal : Literal} :
    decode raw kind path what = .ok literal ↔ Literal.ofRaw? kind raw = some literal := by
  unfold decode
  cases Literal.ofRaw? kind raw <;> simp

theorem decodeAll_eq_mapM (kind : ScalarKind) (path : SchemaPath) (what : String)
    (raws : List Json) :
    decodeAll kind path what raws = raws.mapM fun raw => decode raw kind path what := by
  induction raws with
  | nil => rfl
  | cons raw rest induction => rw [decodeAll, List.mapM_cons, induction]

/-! ## Bounds -/

/-- The tests by doubles let exactly those doubles pass that are words, and these are kept. -/
theorem bound_int64_finite (number : FiniteBinary64) (path : SchemaPath) (side : BoundSide) :
    bound (.finite number) .int64 path side =
      match number.toInt?.bind int64OfInt? with
      | some word => .ok (.int64 word)
      | none => .error (.value path (.notInt64 side (.finite number))) := by
  rw [bound, if_neg (by decide)]
  cases found : number.toInt? with
  | none => rfl
  | some whole =>
      have exact := FiniteBinary64.toInt?_eq_some_iff.mp found
      rw [Option.isNone_some, Bool.false_or, Option.bind_some, int64OfInt?]
      by_cases range : -9223372036854775808 ≤ whole ∧ whole < 9223372036854775808
      · rcases (Binary64.inRange_iff exact).mpr range with ⟨notBelow, notPast⟩
        rw [if_neg (by rw [notBelow, notPast]; decide), if_pos range,
          Binary64.toInt64_of_toRat exact range]
      · have outside := mt (Binary64.inRange_iff exact).mp range
        rw [if_pos (by simpa [or_iff_not_imp_left] using outside), if_neg range]

theorem bound_int64_eq_ok {value : Binary64} {path : SchemaPath} {side : BoundSide}
    {literal : Literal} :
    bound value .int64 path side = .ok literal ↔
      ∃ (number : FiniteBinary64) (whole : Int), value = .finite number ∧ number.toRat = whole ∧
        (-9223372036854775808 ≤ whole ∧ whole < 9223372036854775808) ∧
        literal = .int64 (.ofInt whole) := by
  cases value with
  | nan => simp [bound]
  | infinite negative => simp [bound]
  | finite number =>
      rw [bound_int64_finite]
      constructor
      · intro success
        split at success
        · rename_i word found
          cases success
          rcases Option.bind_eq_some_iff.mp found with ⟨whole, exact, fits⟩
          rcases int64OfInt?_eq_some_iff.mp fits with ⟨range, rfl⟩
          exact ⟨number, whole, rfl, FiniteBinary64.toInt?_eq_some_iff.mp exact, range, rfl⟩
        · cases success
      · intro holds
        rcases holds with ⟨_, whole, ⟨⟩, exact, range, rfl⟩
        have found : number.toInt?.bind int64OfInt? = some (.ofInt whole) := by
          rw [FiniteBinary64.toInt?_eq_some_iff.mpr exact]
          exact int64OfInt?_eq_some_iff.mpr ⟨range, rfl⟩
        rw [found]

theorem bound_float64_eq_ok {value : Binary64} {path : SchemaPath} {side : BoundSide}
    {literal : Literal} :
    bound value .float64 path side = .ok literal ↔
      (∃ number, value = .finite number) ∧ literal = .float64 value := by
  cases value <;> simp [bound, eq_comm]

def movedBound (stated : Option Binary64) (move : Binary64 → Binary64) (kind : ScalarKind)
    (path : SchemaPath) (side : BoundSide) : Except CompileError (Option Literal) :=
  match stated with
  | none => .ok none
  | some value => some <$> bound (move value) kind path side

def minimumOf (node : SchemaNode) (kind : ScalarKind) (path : SchemaPath) :
    Except CompileError (Option Literal) :=
  movedBound node.minimum (·.add (shift node.exclusiveMinimum)) kind path .minimum

def maximumOf (node : SchemaNode) (kind : ScalarKind) (path : SchemaPath) :
    Except CompileError (Option Literal) :=
  movedBound node.maximum (·.sub (shift node.exclusiveMaximum)) kind path .maximum

theorem numberRules_eq (node : SchemaNode) (kind : ScalarKind) (path : SchemaPath) :
    numberRules node kind path = do
      let least ← minimumOf node kind path
      let greatest ← maximumOf node kind path
      return (least.map .atLeast).toList ++ (greatest.map .atMost).toList := by
  unfold numberRules minimumOf maximumOf movedBound
  cases node.minimum <;> cases node.maximum <;> simp

/-! ## Metadata -/

theorem derive_eq_of_keywords {left right : SchemaNode}
    (keywords : right = { left with
      properties := right.properties, additionalProperties := right.additionalProperties,
      items := right.items, required := right.required })
    (required : Bool) (kind? : Option ScalarKind) (path : SchemaPath) :
    derive right required kind? path = derive left required kind? path := by
  rw [keywords]
  simp only [derive, defaultOf, validatorsOf, enumRules, kindRules, textRules, numberRules]

theorem validatorsOf_eq_ok {node : SchemaNode} {kind : ScalarKind} {path : SchemaPath}
    {rules : List Constraint} :
    validatorsOf node kind path = .ok rules ↔
      ∃ allowed others, enumRules node kind path = .ok allowed ∧
        kindRules node kind path = .ok others ∧ allowed ++ others = rules := by
  rw [validatorsOf, Outcome.bind_eq_ok]
  constructor
  · intro holds
    rcases holds with ⟨allowed, enumerated, continued⟩
    rcases Outcome.bind_eq_ok.mp continued with ⟨others, derived, success⟩
    cases success
    exact ⟨allowed, others, enumerated, derived, rfl⟩
  · intro holds
    rcases holds with ⟨allowed, others, enumerated, derived, rfl⟩
    exact ⟨allowed, enumerated, Outcome.bind_eq_ok.mpr ⟨others, derived, rfl⟩⟩

theorem numberRules_eq_ok {node : SchemaNode} {kind : ScalarKind} {path : SchemaPath}
    {rules : List Constraint} :
    numberRules node kind path = .ok rules ↔
      ∃ least greatest, minimumOf node kind path = .ok least ∧
        maximumOf node kind path = .ok greatest ∧
        (least.map .atLeast).toList ++ (greatest.map .atMost).toList = rules := by
  rw [numberRules_eq, Outcome.bind_eq_ok]
  constructor
  · intro holds
    rcases holds with ⟨least, lower, continued⟩
    rcases Outcome.bind_eq_ok.mp continued with ⟨greatest, upper, success⟩
    cases success
    exact ⟨least, greatest, lower, upper, rfl⟩
  · intro holds
    rcases holds with ⟨least, greatest, lower, upper, rfl⟩
    exact ⟨least, lower, Outcome.bind_eq_ok.mpr ⟨greatest, upper, rfl⟩⟩

theorem derive_scalar_eq_ok {node : SchemaNode} {required : Bool} {kind : ScalarKind}
    {path : SchemaPath} {metadata : Metadata} :
    derive node required (some kind) path = .ok metadata ↔
      ∃ default rules, defaultOf node kind path = .ok default ∧
        validatorsOf node kind path = .ok rules ∧
        ⟨(Description.splitImmutable (Description.clean (node.description.getD ""))).1,
          (Description.splitImmutable (Description.clean (node.description.getD ""))).2,
          required, default, rules⟩ = metadata := by
  unfold derive
  simp only [Outcome.bind_eq_ok]
  constructor
  · intro holds
    rcases holds with ⟨default, decoded, rules, derived, success⟩
    exact ⟨default, rules, decoded, derived, Except.ok.inj success⟩
  · intro holds
    rcases holds with ⟨default, rules, decoded, derived, rfl⟩
    exact ⟨default, decoded, rules, derived, rfl⟩

theorem derive_required {node : SchemaNode} {required : Bool} {kind? : Option ScalarKind}
    {path : SchemaPath} {metadata : Metadata}
    (derived : derive node required kind? path = .ok metadata) : metadata.required = required := by
  cases kind? with
  | none =>
      have made := Except.ok.inj derived
      rw [← made]
  | some kind =>
      rcases derive_scalar_eq_ok.mp derived with ⟨default, rules, _, _, rfl⟩
      rfl

end Metadata

end CrdCompiler
