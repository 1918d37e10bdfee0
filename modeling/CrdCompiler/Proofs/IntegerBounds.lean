import CrdCompiler.Proofs.Decoding
import CrdCompiler.Proofs.Rounding

/-! # Bounds of integer properties

An exclusive bound is moved by one in double arithmetic before it becomes a 64-bit integer. The
bound of a property admits exactly the words that the schema admits as long as the moved bound is a
double, and that is so for an inclusive bound always and for an exclusive one up to `2 ^ 53`.
-/

namespace CrdCompiler

namespace FiniteBinary64

/-- Next to an integer double there is another one only where both have at most 53 bits. -/
theorem exists_toRat_eq_add_iff {number : FiniteBinary64} {limit step : Int}
    (integral : number.toRat = limit) (unit : |step| ≤ 1) :
    (∃ total : FiniteBinary64, total.toRat = (limit + step : Int)) ↔
      step = 0 ∨ limit.natAbs < 2 ^ 53 ∨ (limit + step).natAbs < 2 ^ 53 := by
  have steps : step = 0 ∨ step = 1 ∨ step = -1 := by
    rw [abs_le] at unit
    omega
  constructor
  · intro holds
    rcases holds with ⟨total, exact⟩
    by_contra beyond
    push Not at beyond
    have even : 2 ^ (0 + 1) ∣ limit := two_pow_dvd_of_toRat_eq integral beyond.2.1
    have neighbourEven : 2 ^ (0 + 1) ∣ limit + step := two_pow_dvd_of_toRat_eq exact beyond.2.2
    omega
  · intro small
    by_cases still : step = 0
    · refine ⟨number, ?_⟩
      rw [integral, still, add_zero]
    · apply exists_toRat_eq
      omega

end FiniteBinary64

namespace Metadata

/-- A word that a minimum admits; an exclusive minimum is not admitted itself. -/
def AdmittedByMinimum (minimum : FiniteBinary64) (exclusive : Bool) (word : Int64) : Prop :=
  if exclusive then minimum.toRat < word.toInt else minimum.toRat ≤ word.toInt

def AdmittedByMaximum (maximum : FiniteBinary64) (exclusive : Bool) (word : Int64) : Prop :=
  if exclusive then (word.toInt : ℚ) < maximum.toRat else word.toInt ≤ maximum.toRat

theorem shift_eq_finite (exclusive : Bool) :
    ∃ offset, shift exclusive = .finite offset ∧
      offset.toRat = ((if exclusive then 1 else 0 : Int) : ℚ) := by
  cases exclusive with
  | false =>
      refine ⟨.zero false, rfl, ?_⟩
      rw [FiniteBinary64.toRat_eq]
      simp [FiniteBinary64.zero, FiniteBinary64.signed]
  | true =>
      refine ⟨⟨false, 4503599627370496, -52, by decide⟩, by decide, ?_⟩
      rw [FiniteBinary64.toRat_eq]
      norm_num [FiniteBinary64.signed]

/-- A bound that was moved is a word within a step of the exact bound, and equal to it exactly when
the exact bound is a double. -/
theorem bound_of_moved {number offset : FiniteBinary64} {limit step : Int} {path : SchemaPath}
    {side : BoundSide} {literal : Literal} (integral : number.toRat = limit)
    (moved : offset.toRat = step)
    (bounded : bound (Binary64.addFinite number offset) .int64 path side = .ok literal) :
    ∃ word : Int64, literal = .int64 word ∧ |word.toInt - (limit + step)| ≤ |step| ∧
      (word.toInt = limit + step ↔
        ∃ total : FiniteBinary64, total.toRat = (limit + step : Int)) := by
  rcases bound_int64_eq_ok.mp bounded with ⟨result, whole, added, exact, range, rfl⟩
  refine ⟨_, rfl, ?_⟩
  rw [Int64.toInt_ofInt_of_le (by omega) (by omega)]
  have sum : number.toRat + offset.toRat = (limit + step : Int) := by
    rw [integral, moved]
    push_cast
    rfl
  constructor
  · have near := Binary64.addFinite_nearest added number
    rw [sum, exact, integral] at near
    have distance : (limit : ℚ) - (limit + step : Int) = -step := by
      push_cast
      ring
    rw [distance, abs_neg] at near
    exact_mod_cast near
  · constructor
    · intro equal
      cases equal
      exact ⟨result, exact⟩
    · intro holds
      rcases holds with ⟨total, same⟩
      have hit := Binary64.addFinite_exact added (sum.trans same.symm)
      rw [exact, same] at hit
      exact_mod_cast hit

/-- A bound that could be moved is itself no more than a word: beyond the words the next double is
too far away to be rounded to one. -/
theorem limit_of_moved {number : FiniteBinary64} {limit step : Int} {word : Int64}
    (integral : number.toRat = limit) (unit : |step| ≤ 1)
    (near : |word.toInt - (limit + step)| ≤ |step|) :
    -9223372036854775808 ≤ limit ∧ limit ≤ 9223372036854775808 := by
  have lower := word.le_toInt
  have upper := word.toInt_lt
  have distance := near.trans unit
  rw [abs_le] at distance unit
  by_contra beyond
  have multiple : 2 ^ (10 + 1) ∣ limit :=
    FiniteBinary64.two_pow_dvd_of_toRat_eq integral (by omega)
  omega

theorem forall_le_word_iff {bound : Int64} {limit : Int} (reached : -9223372036854775808 ≤ limit) :
    (∀ word : Int64, bound ≤ word ↔ limit ≤ word.toInt) ↔ bound.toInt = limit := by
  constructor
  · intro same
    have below : limit ≤ bound.toInt := (same bound).mp (Int64.le_refl bound)
    have fits := bound.toInt_lt
    have exact : (Int64.ofInt limit).toInt = limit := Int64.toInt_ofInt_of_le reached (by omega)
    have above := (same (.ofInt limit)).mpr exact.ge
    rw [Int64.le_iff_toInt_le, exact] at above
    omega
  · intro equal word
    cases equal
    exact Int64.le_iff_toInt_le

theorem forall_word_le_iff {bound : Int64} {limit : Int} (reached : limit < 9223372036854775808) :
    (∀ word : Int64, word ≤ bound ↔ word.toInt ≤ limit) ↔ bound.toInt = limit := by
  constructor
  · intro same
    have above : bound.toInt ≤ limit := (same bound).mp (Int64.le_refl bound)
    have fits := bound.le_toInt
    have exact : (Int64.ofInt limit).toInt = limit := Int64.toInt_ofInt_of_le (by omega) reached
    have below := (same (.ofInt limit)).mpr exact.le
    rw [Int64.le_iff_toInt_le, exact] at below
    omega
  · intro equal word
    cases equal
    exact Int64.le_iff_toInt_le

theorem mem_validators_of_derive {node : SchemaNode} {required : Bool} {path : SchemaPath}
    {metadata : Metadata} (derived : derive node required (some .int64) path = .ok metadata) :
    ∃ least greatest, minimumOf node .int64 path = .ok least ∧
      maximumOf node .int64 path = .ok greatest ∧
      (∀ literal, .atLeast literal ∈ metadata.validators ↔ least = some literal) ∧
      ∀ literal, .atMost literal ∈ metadata.validators ↔ greatest = some literal := by
  rcases derive_scalar_eq_ok.mp derived with ⟨_, rules, _, validated, rfl⟩
  rcases validatorsOf_eq_ok.mp validated with ⟨allowed, others, enumerated, numeric, rfl⟩
  rcases numberRules_eq_ok.mp numeric with ⟨least, greatest, lower, upper, rfl⟩
  have enumeration : allowed = [] ∨ ∃ values, allowed = [.oneOf values] := by
    unfold enumRules at enumerated
    split at enumerated
    · exact .inl (Except.ok.inj enumerated).symm
    · rcases Outcome.map_eq_ok.mp enumerated with ⟨values, _, rfl⟩
      exact .inr ⟨values, rfl⟩
  refine ⟨least, greatest, lower, upper, ?_, ?_⟩
  · intro literal
    rcases enumeration with rfl | ⟨values, rfl⟩ <;> simp
  · intro literal
    rcases enumeration with rfl | ⟨values, rfl⟩ <;> simp

theorem minimumOf_exact_iff {node : SchemaNode} {path : SchemaPath} {least : Option Literal}
    {minimum : FiniteBinary64} {limit : Int} (derived : minimumOf node .int64 path = .ok least)
    (declared : node.minimum = some (.finite minimum)) (integral : minimum.toRat = limit) :
    ∃ bound : Int64, least = some (.int64 bound) ∧
      ((∀ word : Int64, bound ≤ word ↔ AdmittedByMinimum minimum node.exclusiveMinimum word) ↔
        (node.exclusiveMinimum → -2 ^ 53 ≤ limit ∧ limit < 2 ^ 53)) := by
  rcases shift_eq_finite node.exclusiveMinimum with ⟨offset, shifted, moved⟩
  unfold minimumOf movedBound at derived
  rw [declared, shifted] at derived
  rcases Outcome.map_eq_ok.mp derived with ⟨literal, bounded, rfl⟩
  rcases bound_of_moved integral moved bounded with ⟨bound, rfl, near, exact⟩
  refine ⟨bound, rfl, ?_⟩
  have unit : |(if node.exclusiveMinimum then 1 else 0 : Int)| ≤ 1 := by split <;> decide
  have reached := limit_of_moved integral unit near
  have admitted (word : Int64) : AdmittedByMinimum minimum node.exclusiveMinimum word ↔
      limit + (if node.exclusiveMinimum then 1 else 0) ≤ word.toInt := by
    unfold AdmittedByMinimum
    rw [integral]
    split
    · exact_mod_cast Iff.rfl
    · rw [add_zero]
      exact_mod_cast Iff.rfl
  simp only [admitted]
  rw [forall_le_word_iff (by split <;> omega), exact,
    FiniteBinary64.exists_toRat_eq_add_iff integral unit]
  cases node.exclusiveMinimum with
  | false => simp
  | true =>
      simp only [if_true, true_implies]
      omega

theorem maximumOf_exact_iff {node : SchemaNode} {path : SchemaPath} {greatest : Option Literal}
    {maximum : FiniteBinary64} {limit : Int} (derived : maximumOf node .int64 path = .ok greatest)
    (declared : node.maximum = some (.finite maximum)) (integral : maximum.toRat = limit) :
    ∃ bound : Int64, greatest = some (.int64 bound) ∧
      ((∀ word : Int64, word ≤ bound ↔ AdmittedByMaximum maximum node.exclusiveMaximum word) ↔
        (node.exclusiveMaximum → -2 ^ 53 < limit ∧ limit ≤ 2 ^ 53)) := by
  rcases shift_eq_finite node.exclusiveMaximum with ⟨offset, shifted, moved⟩
  have lowered : offset.neg.toRat = ((if node.exclusiveMaximum then -1 else 0 : Int) : ℚ) := by
    rw [FiniteBinary64.toRat_neg, moved]
    split <;> simp
  unfold maximumOf movedBound at derived
  rw [declared, shifted] at derived
  rcases Outcome.map_eq_ok.mp derived with ⟨literal, bounded, rfl⟩
  rcases bound_of_moved integral lowered bounded with ⟨bound, rfl, near, exact⟩
  refine ⟨bound, rfl, ?_⟩
  have unit : |(if node.exclusiveMaximum then -1 else 0 : Int)| ≤ 1 := by split <;> decide
  have reached := limit_of_moved integral unit near
  have admitted (word : Int64) : AdmittedByMaximum maximum node.exclusiveMaximum word ↔
      word.toInt ≤ limit + (if node.exclusiveMaximum then -1 else 0) := by
    unfold AdmittedByMaximum
    rw [integral]
    split
    · rw [← sub_eq_add_neg, Int.le_sub_one_iff]
      exact_mod_cast Iff.rfl
    · rw [add_zero]
      exact_mod_cast Iff.rfl
  have fits : limit + (if node.exclusiveMaximum then -1 else 0) < 9223372036854775808 := by
    have upper := bound.toInt_lt
    generalize node.exclusiveMaximum = exclusive at near ⊢
    cases exclusive with
    | false =>
        simp only [Bool.false_eq_true, if_false, add_zero, abs_zero, abs_nonpos_iff] at near ⊢
        omega
    | true =>
        simp only [if_true]
        omega
  simp only [admitted]
  rw [forall_word_le_iff fits, exact, FiniteBinary64.exists_toRat_eq_add_iff integral unit]
  cases node.exclusiveMaximum with
  | false => simp
  | true =>
      simp only [if_true, true_implies]
      omega

/-- An integer property whose metadata could be derived has one bound for each of its keywords, and
that bound admits exactly the words that the keyword admits if and only if the keyword is inclusive
or the exclusive bound, moved by one, is among the first `2 ^ 53` integers on either side. -/
theorem derived_bounds_exact_iff {node : SchemaNode} {required : Bool} {path : SchemaPath}
    {metadata : Metadata} (derived : derive node required (some .int64) path = .ok metadata) :
    (∀ (minimum : FiniteBinary64) (limit : Int), node.minimum = some (.finite minimum) →
      minimum.toRat = limit →
      ∃ bound : Int64,
        (∀ literal, .atLeast literal ∈ metadata.validators ↔ literal = .int64 bound) ∧
        ((∀ word : Int64, bound ≤ word ↔ AdmittedByMinimum minimum node.exclusiveMinimum word) ↔
          (node.exclusiveMinimum → -2 ^ 53 ≤ limit ∧ limit < 2 ^ 53))) ∧
    (∀ (maximum : FiniteBinary64) (limit : Int), node.maximum = some (.finite maximum) →
      maximum.toRat = limit →
      ∃ bound : Int64,
        (∀ literal, .atMost literal ∈ metadata.validators ↔ literal = .int64 bound) ∧
        ((∀ word : Int64, word ≤ bound ↔ AdmittedByMaximum maximum node.exclusiveMaximum word) ↔
          (node.exclusiveMaximum → -2 ^ 53 < limit ∧ limit ≤ 2 ^ 53))) := by
  rcases mem_validators_of_derive derived with
    ⟨least, greatest, lower, upper, leastMem, greatestMem⟩
  constructor
  · intro minimum limit declared integral
    rcases minimumOf_exact_iff lower declared integral with ⟨bound, rfl, exact⟩
    refine ⟨bound, ?_, exact⟩
    intro literal
    rw [leastMem, Option.some_inj, eq_comm]
  · intro maximum limit declared integral
    rcases maximumOf_exact_iff upper declared integral with ⟨bound, rfl, exact⟩
    refine ⟨bound, ?_, exact⟩
    intro literal
    rw [greatestMem, Option.some_inj, eq_comm]

/-- The largest exclusive minimum that is moved exactly. -/
theorem derived_bounds_exact_below_two_pow_53 :
    derive { minimum := some (.ofInt 9007199254740991), exclusiveMinimum := true } false
        (some .int64) (.root "spec") =
      .ok ⟨"", false, false, none, [.atLeast (.int64 9007199254740992)]⟩ ∧
    ∀ word : Int64, 9007199254740992 ≤ word ↔
      AdmittedByMinimum ⟨false, 9007199254740991, 0, by decide⟩ true word := by
  have derived : derive { minimum := some (.ofInt 9007199254740991), exclusiveMinimum := true }
      false (some .int64) (.root "spec") =
        .ok ⟨"", false, false, none, [.atLeast (.int64 9007199254740992)]⟩ := rfl
  have declared : Binary64.ofInt 9007199254740991 =
      .finite ⟨false, 9007199254740991, 0, by decide⟩ := by decide
  have integral : FiniteBinary64.toRat ⟨false, 9007199254740991, 0, by decide⟩ =
      (9007199254740991 : Int) := by
    rw [FiniteBinary64.toRat_eq]
    norm_num [FiniteBinary64.signed]
  rcases (derived_bounds_exact_iff derived).1 _ _ (congrArg some declared) integral with
    ⟨bound, only, exact⟩
  have emitted := (only (.int64 9007199254740992)).mp (by decide)
  cases emitted
  exact ⟨derived, exact.mpr fun _ => by decide⟩

/-- One further, the successor is no double, and the bound admits the exclusive minimum itself. -/
theorem exclusive_minimum_two_pow_53_not_exact :
    ¬ ∀ metadata, derive { minimum := some (.ofInt 9007199254740992), exclusiveMinimum := true }
        false (some .int64) (.root "spec") = .ok metadata →
      ∀ bound : Int64, .atLeast (.int64 bound) ∈ metadata.validators →
        ∀ word : Int64, bound ≤ word ↔
          AdmittedByMinimum ⟨false, 4503599627370496, 1, by decide⟩ true word := by
  intro exact
  have admitted := (exact _ rfl 9007199254740992 (by decide) 9007199254740992).mp (by decide)
  have value : (9007199254740992 : Int64).toInt = 9007199254740992 := by decide
  rw [AdmittedByMinimum, if_pos rfl, FiniteBinary64.toRat_eq, value] at admitted
  norm_num [FiniteBinary64.signed] at admitted

end Metadata

end CrdCompiler
