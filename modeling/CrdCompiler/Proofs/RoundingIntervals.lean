import CrdCompiler.Number.Decimal
import CrdCompiler.Proofs.Rounding

/-! # Numbers that round to a double

A fraction between the middles on both sides of a double is rounded to that double. So is a middle
itself if the mantissa is even.
-/

namespace CrdCompiler

namespace Rounding

variable {numerator denominator units : Nat} {exponent : Int}

theorem quotient_eq (positive : 0 < denominator)
    (near : 2 * |(units * denominator - numerator : Int)| ≤ denominator)
    (even : 2 * |(units * denominator - numerator : Int)| = denominator → units % 2 = 0) :
    quotient numerator denominator = units := by
  by_contra other
  have different : (units : Int) ≠ quotient numerator denominator :=
    fun same => other (by exact_mod_cast same.symm)
  -- Two integers that are no further than half a unit away are both just that far, and neighbours.
  have half := quotient_half numerator positive
  have apart := le_distances_of_ne different
  have quotientEven := quotient_even_of_tie positive different (by omega)
  have unitsEven := even (by omega)
  have steps : |(units - quotient numerator denominator : Int)| * denominator ≤ 1 * denominator :=
    calc |(units - quotient numerator denominator : Int)| * denominator
        = |(units * denominator - numerator) -
            (quotient numerator denominator * denominator - numerator : Int)| := by
          rw [sub_sub_sub_cancel_right, ← sub_mul, abs_mul, Nat.abs_cast]
      _ ≤ |(units * denominator - numerator : Int)| +
            |(quotient numerator denominator * denominator - numerator : Int)| := abs_sub _ _
      _ ≤ 1 * denominator := by omega
  have neighbours := abs_le.mp (le_of_mul_le_mul_right steps (by exact_mod_cast positive))
  omega

theorem quotient_unscaled_eq (positive : 0 < denominator)
    (near : 2 * |units * (2 : ℚ) ^ exponent - numerator / denominator| ≤ 2 ^ exponent)
    (even : 2 * |units * (2 : ℚ) ^ exponent - numerator / denominator| = 2 ^ exponent →
      units % 2 = 0) :
    quotient (unscaled numerator denominator exponent).1
      (unscaled numerator denominator exponent).2 = units := by
  have unitPositive := unscaled_positive numerator positive exponent
  have distance := abs_gridPoint_sub numerator positive exponent units
  generalize (unscaled numerator denominator exponent).1 = scaled at *
  generalize (unscaled numerator denominator exponent).2 = unit at *
  have powerPositive : (0 : ℚ) < 2 ^ exponent := by positivity
  have castPositive : (0 : ℚ) < unit := by exact_mod_cast unitPositive
  have twice : 2 * |units * (2 : ℚ) ^ exponent - numerator / denominator| =
      2 * |(units : ℚ) * unit - scaled| / unit * 2 ^ exponent := by
    rw [distance]
    ring
  rw [twice] at near even
  rw [mul_le_iff_le_one_left powerPositive, div_le_one castPositive] at near
  rw [mul_eq_right₀ powerPositive.ne', div_eq_one_iff_eq castPositive.ne'] at even
  exact quotient_eq unitPositive (by exact_mod_cast near) fun tied => even (by exact_mod_cast tied)

theorem exponentFor_eq (above : 0 < numerator) (below : 0 < denominator)
    (least : -1074 ≤ exponent)
    (full : exponent = -1074 ∨ (2 : ℚ) ^ (exponent + 52) ≤ numerator / denominator)
    (few : (numerator / denominator : ℚ) < 2 ^ (exponent + 53)) :
    exponentFor numerator denominator = exponent := by
  have least' : -1074 ≤ exponentFor numerator denominator := le_max_left _ _
  have full' := exponentFor_eq_or_le above below
  have few' := ratio_lt_exponentFor numerator below
  have ordered {left right : Int} (lower : (2 : ℚ) ^ (left + 52) ≤ numerator / denominator)
      (upper : (numerator / denominator : ℚ) < 2 ^ (right + 53)) : left ≤ right := by
    have exponents := (zpow_lt_zpow_iff_right₀ (by norm_num)).mp (lower.trans_lt upper)
    omega
  apply le_antisymm
  · rcases full' with low | full'
    · omega
    · exact ordered full' few
  · rcases full with low | full
    · omega
    · exact ordered full few'

end Rounding

namespace FiniteBinary64

variable {value : FiniteBinary64} {number : ℚ}

/-- The number lies between the middles on both sides, or it is one of them and the mantissa is
even. -/
structure Encloses (value : FiniteBinary64) (number : ℚ) : Prop where
  lower : value.interval.lower * (2 : ℚ) ^ (value.exponent - 2) ≤ number
  upper : number ≤ value.interval.upper * (2 : ℚ) ^ (value.exponent - 2)
  inside : value.mantissa % 2 ≠ 0 →
    value.interval.lower * (2 : ℚ) ^ (value.exponent - 2) ≠ number ∧
      number ≠ value.interval.upper * (2 : ℚ) ^ (value.exponent - 2)

theorem exponent_split (value : FiniteBinary64) (bits : Int) :
    (2 : ℚ) ^ (value.exponent + bits) = 2 ^ (bits + 2) * 2 ^ (value.exponent - 2) := by
  rw [← zpow_add₀ (by norm_num)]
  congr 1
  omega

theorem exponent_pred (value : FiniteBinary64) :
    (2 : ℚ) ^ (value.exponent - 1) = 2 * 2 ^ (value.exponent - 2) := by
  have scaled := value.exponent_split (-1)
  norm_num at scaled
  exact scaled

theorem interval_lower (value : FiniteBinary64) :
    value.interval.lower =
      4 * value.mantissa - if value.mantissa = 2 ^ 52 ∧ -1074 < value.exponent then 1 else 2 := rfl

theorem interval_upper (value : FiniteBinary64) :
    value.interval.upper = 4 * value.mantissa + 2 := rfl

theorem cast_interval_upper (value : FiniteBinary64) :
    (value.interval.upper : ℚ) = 4 * value.mantissa + 2 := by
  rw [interval_upper]
  push_cast
  rfl

theorem le_cast_interval_lower (value : FiniteBinary64) :
    (4 * value.mantissa - 2 : ℚ) ≤ value.interval.lower := by
  have least : 4 * value.mantissa ≤ value.interval.lower + 2 := by
    rw [interval_lower]
    split <;> omega
  have cast : (4 * value.mantissa : ℚ) ≤ value.interval.lower + 2 := by exact_mod_cast least
  linarith

theorem cast_interval_lower_le (nonzero : value.mantissa ≠ 0) :
    (value.interval.lower : ℚ) ≤ 4 * value.mantissa - 1 := by
  have greatest : value.interval.lower + 1 ≤ 4 * value.mantissa := by
    rw [interval_lower]
    split <;> omega
  have cast : (value.interval.lower + 1 : ℚ) ≤ 4 * value.mantissa := by exact_mod_cast greatest
  linarith

theorem Encloses.large (encloses : value.Encloses number) (nonzero : value.mantissa ≠ 0) :
    (2 : ℚ) ^ (value.exponent - 1) ≤ number := by
  have least : (2 : ℚ) ≤ value.interval.lower := by
    rw [interval_lower]
    exact_mod_cast show 2 ≤ _ by split <;> omega
  rw [exponent_pred]
  exact (mul_le_mul_of_nonneg_right least (by positivity)).trans encloses.lower

theorem Encloses.positive (encloses : value.Encloses number) (nonzero : value.mantissa ≠ 0) :
    0 < number :=
  lt_of_lt_of_le (by positivity) (encloses.large nonzero)

theorem Encloses.few (encloses : value.Encloses number) : number < 2 ^ (value.exponent + 53) := by
  have narrow : ((value.interval.upper : Nat) : ℚ) < 2 ^ (55 : Int) := by
    rw [interval_upper]
    exact_mod_cast show 4 * value.mantissa + 2 < 2 ^ 55 by
      have := value.canonical.1
      omega
  rw [exponent_split]
  exact encloses.upper.trans_lt (mul_lt_mul_of_pos_right narrow (by positivity))

theorem Encloses.near (encloses : value.Encloses number) :
    2 * |value.mantissa * (2 : ℚ) ^ value.exponent - number| ≤ 2 ^ value.exponent ∧
      (2 * |value.mantissa * (2 : ℚ) ^ value.exponent - number| = 2 ^ value.exponent →
        value.mantissa % 2 = 0) := by
  have unitPositive : (0 : ℚ) < 2 ^ (value.exponent - 2) := by positivity
  have power : (2 : ℚ) ^ value.exponent = 4 * 2 ^ (value.exponent - 2) := by
    have scaled := value.exponent_split 0
    norm_num at scaled
    exact scaled
  have edge := mul_le_mul_of_nonneg_right value.le_cast_interval_lower unitPositive.le
  have lower := encloses.lower
  have upper := encloses.upper
  have inside := encloses.inside
  rw [cast_interval_upper] at upper inside
  rw [power]
  generalize (2 : ℚ) ^ (value.exponent - 2) = unit at *
  have near : |value.mantissa * (4 * unit) - number| ≤ 2 * unit :=
    abs_le.mpr ⟨by linarith, by linarith⟩
  refine ⟨by linarith, fun tied => ?_⟩
  by_contra odd
  rcases inside odd with ⟨notLower, notUpper⟩
  rcases abs_eq (show 0 ≤ 2 * unit by linarith) |>.mp (show _ = 2 * unit by linarith [tied]) with
    high | low
  · exact notLower (le_antisymm lower (by linarith))
  · exact notUpper (le_antisymm upper (by linarith))

theorem mantissa_eq_of_lt (encloses : value.Encloses number) (notLeast : value.exponent ≠ -1074)
    (short : number < 2 ^ (value.exponent + 52)) :
    value.mantissa = 2 ^ 52 ∧ -1074 < value.exponent := by
  rcases value.canonical with ⟨_, least, _, full⟩
  have unitPositive : (0 : ℚ) < 2 ^ (value.exponent - 2) := by positivity
  have scaled := encloses.lower.trans_lt short
  rw [exponent_split, mul_lt_mul_iff_left₀ unitPositive] at scaled
  have bound : value.interval.lower < 2 ^ 54 := by exact_mod_cast scaled
  rw [interval_lower] at bound
  split at bound <;> omega

/-- Just below a power of two a fraction is rounded up to it, with a carry. -/
theorem Encloses.carries {numerator denominator : Nat}
    (encloses : value.Encloses (numerator / denominator)) (below : 0 < denominator)
    (above : 0 < numerator) (notLeast : value.exponent ≠ -1074)
    (short : (numerator / denominator : ℚ) < 2 ^ (value.exponent + 52)) :
    Rounding.exponentFor numerator denominator = value.exponent - 1 ∧
      Rounding.quotient (Rounding.unscaled numerator denominator (value.exponent - 1)).1
        (Rounding.unscaled numerator denominator (value.exponent - 1)).2 = 2 ^ 53 := by
  rcases mantissa_eq_of_lt encloses notLeast short with ⟨power, least⟩
  have unitPositive : (0 : ℚ) < 2 ^ (value.exponent - 2) := by positivity
  have lower := encloses.lower
  have edge : ((value.interval.lower : Nat) : ℚ) = 2 ^ 54 - 1 := by
    rw [interval_lower, if_pos ⟨power, least⟩, power]
    norm_num
  rw [exponent_split] at short
  rw [edge] at lower
  constructor
  · apply Rounding.exponentFor_eq above below (by omega)
    · right
      rw [show value.exponent - 1 + 52 = value.exponent + 51 by omega, exponent_split]
      refine le_trans (mul_le_mul_of_nonneg_right ?_ unitPositive.le) lower
      norm_num
    · rwa [show value.exponent - 1 + 53 = value.exponent + 52 by omega, exponent_split]
  · have near : |((2 ^ 53 : Nat) : ℚ) * 2 ^ (value.exponent - 1) - numerator / denominator| ≤
        2 ^ (value.exponent - 2) := by
      rw [exponent_pred]
      generalize (2 : ℚ) ^ (value.exponent - 2) = unit at *
      norm_num at short lower ⊢
      exact abs_le.mpr ⟨by linarith, by linarith⟩
    have twice := mul_le_mul_of_nonneg_left near (show (0 : ℚ) ≤ 2 by norm_num)
    rw [← exponent_pred] at twice
    exact Rounding.quotient_unscaled_eq below twice fun _ => by norm_num

/-- A fraction that a double encloses is rounded to it. -/
theorem Encloses.ofFraction_eq {numerator denominator : Nat} (below : 0 < denominator)
    (encloses : value.Encloses (numerator / denominator)) (nonzero : value.mantissa ≠ 0) :
    Binary64.ofFraction value.negative numerator denominator = .finite value := by
  have above : 0 < numerator := by
    have positive := encloses.positive nonzero
    apply Nat.pos_of_ne_zero
    rintro rfl
    simp at positive
  rcases value.canonical with ⟨narrow, least, _⟩
  unfold Binary64.ofFraction
  rw [if_neg above.ne']
  by_cases carry : value.exponent ≠ -1074 ∧
      (numerator / denominator : ℚ) < 2 ^ (value.exponent + 52)
  · rcases encloses.carries below above carry.1 carry.2 with ⟨exponent, units⟩
    have power := (mantissa_eq_of_lt encloses carry.1 carry.2).1
    have carried : (if 2 ^ 53 = 9007199254740992 then (4503599627370496, value.exponent - 1 + 1)
        else (2 ^ 53, value.exponent - 1)) = (value.mantissa, value.exponent) := by
      rw [power, sub_add_cancel]
      rfl
    simp only [exponent, units, carried]
    exact dif_pos value.canonical
  · rw [not_and, not_lt] at carry
    have exponent := Rounding.exponentFor_eq above below least
      (or_iff_not_imp_left.mpr carry) encloses.few
    have units := Rounding.quotient_unscaled_eq below encloses.near.1 encloses.near.2
    have kept : ¬ value.mantissa = 9007199254740992 := narrow.ne
    simp only [exponent, units, if_neg kept]
    exact dif_pos value.canonical

end FiniteBinary64

end CrdCompiler
