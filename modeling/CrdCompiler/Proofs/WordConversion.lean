import CrdCompiler.Number.Integer64
import CrdCompiler.Proofs.ExactValue

/-! # Doubles and words

Doubles compare as their exact values do. Among the doubles, those less than `2 ^ 63` and not less
than `-2 ^ 63` are the ones whose integer parts are signed 64-bit words, although no double is the
greatest word: the double nearest to it is `2 ^ 63`.
-/

namespace CrdCompiler

namespace FiniteBinary64

theorem unitsAt_lt_unitsAt_iff {left right : FiniteBinary64} {exponent : Int}
    (belowLeft : exponent ≤ left.exponent) (belowRight : exponent ≤ right.exponent) :
    left.unitsAt exponent < right.unitsAt exponent ↔ left.toRat < right.toRat := by
  rw [left.toRat_eq_unitsAt belowLeft, right.toRat_eq_unitsAt belowRight,
    mul_lt_mul_iff_left₀ (by positivity)]
  exact_mod_cast Iff.rfl

theorem unitsAt_eq_unitsAt_iff {left right : FiniteBinary64} {exponent : Int}
    (belowLeft : exponent ≤ left.exponent) (belowRight : exponent ≤ right.exponent) :
    left.unitsAt exponent = right.unitsAt exponent ↔ left.toRat = right.toRat := by
  rw [left.toRat_eq_unitsAt belowLeft, right.toRat_eq_unitsAt belowRight,
    mul_left_inj' (by positivity)]
  exact_mod_cast Iff.rfl

theorem truncate_of_toRat {value : FiniteBinary64} {whole : Int} (exact : value.toRat = whole) :
    value.truncate = whole := by
  have found := toInt?_eq_some_iff.mpr exact
  unfold toInt? at found
  unfold truncate
  split
  · rename_i nonnegative
    rw [if_pos nonnegative] at found
    exact Option.some.inj found
  · rename_i negative
    rw [if_neg negative] at found
    dsimp only at found
    split at found
    · exact Option.some.inj found
    · cases found

end FiniteBinary64

namespace Binary64

theorem isLess_finite_iff {left right : FiniteBinary64} :
    (finite left).isLess (.finite right) ↔ left.toRat < right.toRat := by
  rw [isLess, compare?, decide_eq_true_eq, Option.some_inj, Int.compare_eq_lt]
  exact FiniteBinary64.unitsAt_lt_unitsAt_iff (min_le_left _ _) (min_le_right _ _)

theorem isAtMost_finite_iff {left right : FiniteBinary64} :
    (finite left).isAtMost (.finite right) ↔ left.toRat ≤ right.toRat := by
  rw [isAtMost, Bool.or_eq_true, isLess_finite_iff, compare?, decide_eq_true_eq, Option.some_inj,
    Int.compare_eq_eq, le_iff_lt_or_eq]
  exact or_congr Iff.rfl
    (FiniteBinary64.unitsAt_eq_unitsAt_iff (min_le_left _ _) (min_le_right _ _))

theorem ofInt64_minValue :
    ∃ number, ofInt64 Int64.minValue = .finite number ∧
      number.toRat = (-9223372036854775808 : Int) := by
  refine ⟨⟨true, 4503599627370496, 11, by decide⟩, by decide, ?_⟩
  rw [FiniteBinary64.toRat_eq]
  norm_num [FiniteBinary64.signed]

/-- The greatest word is no double: the double nearest to it is its successor. -/
theorem ofInt64_maxValue :
    ∃ number, ofInt64 Int64.maxValue = .finite number ∧
      number.toRat = (9223372036854775808 : Int) := by
  refine ⟨⟨false, 4503599627370496, 11, by decide⟩, by decide, ?_⟩
  rw [FiniteBinary64.toRat_eq]
  norm_num [FiniteBinary64.signed]

theorem inRange_iff {number : FiniteBinary64} {whole : Int} (exact : number.toRat = whole) :
    (finite number).isLess (ofInt64 Int64.minValue) = false ∧
        (ofInt64 Int64.maxValue).isAtMost (.finite number) = false ↔
      -9223372036854775808 ≤ whole ∧ whole < 9223372036854775808 := by
  rcases ofInt64_minValue with ⟨least, leastFinite, leastExact⟩
  rcases ofInt64_maxValue with ⟨past, pastFinite, pastExact⟩
  rw [leastFinite, pastFinite, Bool.eq_false_iff, Bool.eq_false_iff, Ne, Ne, isLess_finite_iff,
    isAtMost_finite_iff, exact, leastExact, pastExact, not_lt, not_le]
  exact_mod_cast Iff.rfl

theorem toInt64_of_toRat {number : FiniteBinary64} {whole : Int} (exact : number.toRat = whole)
    (range : -9223372036854775808 ≤ whole ∧ whole < 9223372036854775808) :
    (finite number).toInt64 = .ofInt whole := by
  have limits : max Int64.minValue.toInt (min whole Int64.maxValue.toInt) = whole := by
    rw [Int64.toInt_minValue, Int64.toInt_maxValue]
    omega
  rw [toInt64, FiniteBinary64.truncate_of_toRat exact, limits]

end Binary64

end CrdCompiler
