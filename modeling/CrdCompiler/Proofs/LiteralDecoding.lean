import CrdCompiler.Proofs.FiniteLiterals

/-! # Decoding of literals

A literal is decoded from the plain value that it is written as, and from no other: integers stay
integers however large they are, and only a property of numbers takes an integer for the double
nearest to it.
-/

namespace CrdCompiler

/-- No double is nearer to the number, and of two that are nearest it is the one with an even
mantissa. -/
structure FiniteBinary64.IsNearest (result : FiniteBinary64) (number : ℚ) : Prop where
  least : ∀ other : FiniteBinary64, |result.toRat - number| ≤ |other.toRat - number|
  even : ∀ other : FiniteBinary64, other.toRat ≠ result.toRat →
    |other.toRat - number| = |result.toRat - number| → result.mantissa % 2 = 0

theorem Binary64.ofInt_nearest {whole : Int} {result : FiniteBinary64}
    (rounded : ofInt whole = .finite result) : result.IsNearest whole := by
  have value : signFactor (whole < 0) * ((whole.natAbs : ℚ) / (1 : Nat)) = whole := by
    rw [Nat.cast_one, div_one, signFactor, Nat.cast_natAbs]
    simp only [decide_eq_true_eq]
    split
    · rename_i negative
      rw [abs_of_neg negative, Int.cast_neg, neg_one_mul, neg_neg]
    · rename_i nonnegative
      rw [abs_of_nonneg (not_lt.mp nonnegative), one_mul]
  constructor
  · intro other
    rw [← value]
    exact ofFraction_nearest Nat.one_pos rounded other
  · intro other different tied
    rw [← value] at tied
    exact ofFraction_even_of_tie Nat.one_pos rounded different tied

namespace Literal

theorem ofRaw?_toRaw {literal : Literal} (finite : literal.IsFinite) :
    ofRaw? literal.kind literal.toRaw = some literal := by
  cases literal with
  | string text => rfl
  | int64 word => exact congrArg (Option.map int64) (Integer64.toInt64?_ofInt64 word)
  | float64 number =>
      rcases finite number rfl with ⟨value, rfl⟩
      rfl
  | bool value => rfl

/-- Apart from numbers, a literal is decoded from nothing but the value it is written as. -/
theorem toRaw_of_ofRaw? {kind : ScalarKind} {raw : Json} {literal : Literal}
    (exactKind : kind ≠ .float64) (decoded : ofRaw? kind raw = some literal) :
    literal.toRaw = raw := by
  unfold ofRaw? at decoded
  split at decoded
  · cases decoded
    rfl
  · rename_i number
    rcases Option.map_eq_some_iff.mp decoded with ⟨word, found, rfl⟩
    cases number with
    | float value => cases found
    | integer number => rw [toRaw, Integer64.toInt64?_eq_some_iff.mp found]
  · exact absurd rfl exactKind
  · cases decoded
    rfl
  · cases decoded

theorem ofRaw?_toRaw_of_ne {literal : Literal} {kind : ScalarKind} (different : kind ≠ literal.kind)
    (noWidening : ¬ (literal.kind = .int64 ∧ kind = .float64)) :
    ofRaw? kind literal.toRaw = none := by
  cases literal with
  | string text => cases kind <;> first | rfl | exact absurd rfl different
  | int64 word =>
      cases kind with
      | string => rfl
      | int64 => exact absurd rfl different
      | float64 => exact absurd ⟨rfl, rfl⟩ noWidening
      | bool => rfl
  | float64 number =>
      cases number <;> cases kind <;> first | rfl | exact absurd rfl different
  | bool value => cases kind <;> first | rfl | exact absurd rfl different

end Literal

namespace Metadata

theorem decode_eq_error {raw : Json} {kind : ScalarKind} {path : SchemaPath} {what : String}
    (undecoded : Literal.ofRaw? kind raw = none) :
    decode raw kind path what = .error (.value path (.undecodable what raw kind)) := by
  rw [decode, undecoded]

theorem decode_int64_as_float64 (word : Int64) (path : SchemaPath) (what : String) :
    ∃ result : FiniteBinary64, decode (Literal.int64 word).toRaw .float64 path what =
        .ok (.float64 (.finite result)) ∧ result.IsNearest word.toInt := by
  rcases Binary64.ofInt_finite (.ofInt64 word) with ⟨result, rounded⟩
  have decoded : Literal.ofRaw? .float64 (Literal.int64 word).toRaw =
      some (.float64 (.ofInt word.toInt)) := rfl
  refine ⟨result, decode_eq_ok.mpr ?_, Binary64.ofInt_nearest rounded⟩
  rw [decoded]
  exact congrArg (some ∘ Literal.float64) rounded

/-- Decoding undoes the writing of literals, and what it decodes has been written by it: of all
values and kinds that do not belong together, only integers are taken for doubles. -/
theorem decoding_undoes_writing (path : SchemaPath) (what : String) :
    (∀ literal : Literal, literal.IsFinite →
      decode literal.toRaw literal.kind path what = .ok literal) ∧
    (∀ (literal : Literal) (kind : ScalarKind), kind ≠ literal.kind →
      ¬ (literal.kind = .int64 ∧ kind = .float64) →
      decode literal.toRaw kind path what =
        .error (.value path (.undecodable what literal.toRaw kind))) ∧
    (∀ word : Int64, ∃ result : FiniteBinary64,
      decode (Literal.int64 word).toRaw .float64 path what = .ok (.float64 (.finite result)) ∧
        result.IsNearest word.toInt) ∧
    (∀ raw kind literal, decode raw kind path what = .ok literal →
      literal.kind = kind ∧ (kind ≠ .float64 → literal.toRaw = raw)) ∧
    (∀ number : Integer64, Int64.maxValue.toInt < number.value →
      decode (.number (.integer number)) .int64 path what =
        .error (.value path (.undecodable what (.number (.integer number)) .int64))) ∧
    (∀ value : FiniteBinary64, decode (.number (.float value)) .int64 path what =
      .error (.value path (.undecodable what (.number (.float value)) .int64))) := by
  refine ⟨?_, ?_, ?_, ?_, ?_, fun _ => rfl⟩
  · intro literal finite
    exact decode_eq_ok.mpr (Literal.ofRaw?_toRaw finite)
  · intro literal kind different noWidening
    exact decode_eq_error (Literal.ofRaw?_toRaw_of_ne different noWidening)
  · intro word
    exact decode_int64_as_float64 word path what
  · intro raw kind literal decoded
    have found := decode_eq_ok.mp decoded
    exact ⟨ofRaw?_kind found, fun exactKind => Literal.toRaw_of_ofRaw? exactKind found⟩
  · intro number large
    apply decode_eq_error
    have unfit : number.toInt64? = none := by
      rw [Integer64.toInt64?, int64OfInt?, if_neg]
      rw [Int64.toInt_maxValue] at large
      omega
    simp only [Literal.ofRaw?, JsonNumber.toInt64?, unfit, Option.map_none]

-- An odd integer beyond `2 ^ 53` is kept as an integer, but no double is equal to it.
example (path : SchemaPath) :
    decode (.number (.integer (.ofInt64 9007199254740993))) .int64 path "default" =
      .ok (.int64 9007199254740993) := rfl

example (path : SchemaPath) :
    decode (.number (.integer (.ofInt64 9007199254740993))) .float64 path "default" =
      .ok (.float64 (.ofInt 9007199254740992)) := rfl

end Metadata

end CrdCompiler
