import CrdCompiler.Number.Binary64
import Mathlib.Algebra.Order.Field.Power
import Mathlib.Data.Rat.Cast.Lemmas
import Mathlib.Tactic.FieldSimp
import Mathlib.Tactic.Linarith
import Mathlib.Tactic.NormNum
import Mathlib.Tactic.Positivity
import Mathlib.Tactic.Ring

/-! # Exact values of doubles

A finite double is a signed mantissa times a power of two. Which integers are values of doubles
depends on their size alone: up to `2 ^ 53` all of them, beyond that no odd one.
-/

namespace CrdCompiler.FiniteBinary64

def signed (value : FiniteBinary64) : Int :=
  if value.negative then -value.mantissa else value.mantissa

theorem natAbs_signed (value : FiniteBinary64) : value.signed.natAbs = value.mantissa := by
  unfold signed
  split <;> simp

theorem unitsAt_eq (value : FiniteBinary64) (exponent : Int) :
    value.unitsAt exponent = value.signed * 2 ^ (value.exponent - exponent).toNat := by
  unfold unitsAt signed
  cases value.negative <;> simp

theorem unitsAt_mul_zpow (value : FiniteBinary64) {exponent : Int}
    (below : exponent ≤ value.exponent) :
    (value.unitsAt exponent : ℚ) * 2 ^ exponent = value.signed * 2 ^ value.exponent := by
  rw [unitsAt_eq]
  push_cast
  rw [mul_assoc, ← zpow_natCast, ← zpow_add₀ (by norm_num)]
  congr 2
  omega

theorem toRat_eq (value : FiniteBinary64) :
    value.toRat = value.signed * (2 : ℚ) ^ value.exponent := by
  unfold toRat
  split
  · rename_i nonnegative
    have scaled := value.unitsAt_mul_zpow nonnegative
    simpa using scaled
  · rename_i negative
    rw [unitsAt_eq, sub_self, Int.toNat_zero, pow_zero, mul_one, Rat.mkRat_eq_div]
    have power : (2 : ℚ) ^ value.exponent = ((2 : ℚ) ^ (-value.exponent).toNat)⁻¹ := by
      rw [← zpow_natCast, ← zpow_neg]
      congr 1
      omega
    rw [power, div_eq_mul_inv, Nat.pow_eq]
    push_cast
    rfl

theorem toRat_eq_unitsAt (value : FiniteBinary64) {exponent : Int}
    (below : exponent ≤ value.exponent) :
    value.toRat = value.unitsAt exponent * (2 : ℚ) ^ exponent := by
  rw [toRat_eq, unitsAt_mul_zpow value below]

theorem toRat_neg (value : FiniteBinary64) : value.neg.toRat = -value.toRat := by
  have opposite : value.neg.signed = -value.signed := by
    unfold neg signed
    cases value.negative <;> simp
  rw [toRat_eq, toRat_eq, opposite]
  push_cast
  exact neg_mul _ _

theorem abs_toRat (value : FiniteBinary64) :
    |value.toRat| = value.mantissa * (2 : ℚ) ^ value.exponent := by
  have magnitude : |(value.signed : ℚ)| = value.mantissa := by
    rw [← natAbs_signed, Nat.cast_natAbs, Int.cast_abs]
  rw [toRat_eq, abs_mul, magnitude, abs_of_pos (by positivity)]

/-! ## Integers among the doubles -/

theorem toRat_eq_int_iff_of_neg (value : FiniteBinary64) (negative : value.exponent < 0)
    (whole : Int) :
    value.toRat = whole ↔ value.signed = whole * (2 ^ (-value.exponent).toNat : Nat) := by
  have power : (2 : ℚ) ^ value.exponent = ((2 : ℚ) ^ (-value.exponent).toNat)⁻¹ := by
    rw [← zpow_natCast, ← zpow_neg]
    congr 1
    omega
  rw [toRat_eq, power, ← div_eq_mul_inv, div_eq_iff (by positivity)]
  exact_mod_cast Iff.rfl

theorem wholePart_eq_some_iff (value : FiniteBinary64) {unit : Nat} (positive : 0 < unit)
    (whole : Int) :
    (if value.mantissa % unit = 0 then
        let magnitude : Int := value.mantissa / unit
        some (if value.negative then -magnitude else magnitude)
      else none) = some whole ↔ value.signed = whole * unit := by
  split
  · rename_i divisible
    have multiple : (value.mantissa : Int) = (value.mantissa / unit : Int) * unit := by
      exact_mod_cast (Nat.div_mul_cancel (Nat.dvd_of_mod_eq_zero divisible)).symm
    have quotient : value.signed =
        (if value.negative then -(value.mantissa / unit : Int) else value.mantissa / unit) *
          unit := by
      unfold signed
      split
      · rw [neg_mul, ← multiple]
      · exact multiple
    rw [quotient, Option.some_inj, Int.mul_eq_mul_right_iff (by omega)]
  · rename_i indivisible
    refine ⟨nofun, fun multiple => absurd ?_ indivisible⟩
    rw [← natAbs_signed, multiple, Int.natAbs_mul, Int.natAbs_natCast]
    exact Nat.mul_mod_left _ _

theorem toInt?_eq_some_iff {value : FiniteBinary64} {whole : Int} :
    value.toInt? = some whole ↔ value.toRat = whole := by
  unfold toInt?
  split
  · rename_i nonnegative
    have exact := value.toRat_eq_unitsAt nonnegative
    rw [zpow_zero, mul_one] at exact
    rw [exact, Option.some_inj]
    exact_mod_cast Iff.rfl
  · rename_i negative
    rw [value.toRat_eq_int_iff_of_neg (by omega)]
    exact wholePart_eq_some_iff value (Nat.two_pow_pos _) whole

/-- Doubles have 53 bits: an integer of more than `53 + count` bits that is a double is a multiple
of `2 ^ (count + 1)`. -/
theorem two_pow_dvd_of_toRat_eq {value : FiniteBinary64} {whole : Int} {count : Nat}
    (exact : value.toRat = whole) (large : 2 ^ (53 + count) ≤ whole.natAbs) :
    (2 : Int) ^ (count + 1) ∣ whole := by
  have narrow : value.mantissa < 2 ^ 53 := value.canonical.1
  have magnitude : (value.mantissa : ℚ) * 2 ^ value.exponent = whole.natAbs := by
    rw [← abs_toRat, exact, Nat.cast_natAbs, Int.cast_abs]
  have exponent : (count : Int) < value.exponent := by
    have lower : (2 : ℚ) ^ (53 + count : Int) ≤ value.mantissa * 2 ^ value.exponent := by
      rw [magnitude]
      exact_mod_cast large
    have upper : (value.mantissa : ℚ) * 2 ^ value.exponent < 2 ^ (53 + value.exponent) := by
      rw [zpow_add₀ (by norm_num)]
      exact mul_lt_mul_of_pos_right (by exact_mod_cast narrow) (by positivity)
    have ordered := (zpow_lt_zpow_iff_right₀ (by norm_num : (1 : ℚ) < 2)).mp
      (lower.trans_lt upper)
    omega
  have units := value.toRat_eq_unitsAt (show (count + 1 : Int) ≤ value.exponent by omega)
  refine ⟨value.unitsAt (count + 1), ?_⟩
  have scaled : (whole : ℚ) = value.unitsAt (count + 1) * 2 ^ (count + 1) := by
    rw [← exact, units]
    exact_mod_cast rfl
  rw [mul_comm]
  exact_mod_cast scaled

theorem isCanonical_shifted {magnitude : Nat} (positive : 0 < magnitude)
    (small : magnitude < 2 ^ 53) :
    IsCanonical (magnitude * 2 ^ (52 - magnitude.log2)) ((magnitude.log2 : Int) - 52) := by
  have bits : magnitude.log2 < 53 := (Nat.log2_lt positive.ne').mpr small
  have lower : 2 ^ magnitude.log2 ≤ magnitude := Nat.log2_self_le positive.ne'
  have upper : magnitude < 2 ^ (magnitude.log2 + 1) := Nat.lt_log2_self
  have least : 2 ^ 52 ≤ magnitude * 2 ^ (52 - magnitude.log2) := by
    calc 2 ^ 52 = 2 ^ magnitude.log2 * 2 ^ (52 - magnitude.log2) := by
          rw [← Nat.pow_add]
          congr 1
          omega
      _ ≤ _ := Nat.mul_le_mul_right _ lower
  have greatest : magnitude * 2 ^ (52 - magnitude.log2) < 2 ^ 53 := by
    calc magnitude * 2 ^ (52 - magnitude.log2)
        < 2 ^ (magnitude.log2 + 1) * 2 ^ (52 - magnitude.log2) :=
          Nat.mul_lt_mul_of_pos_right upper (Nat.two_pow_pos _)
      _ = 2 ^ 53 := by
          rw [← Nat.pow_add]
          congr 1
          omega
  exact ⟨greatest, by omega, by omega, .inl least⟩

theorem exists_toRat_eq_natCast {magnitude : Nat} (small : magnitude ≤ 2 ^ 53) :
    ∃ value : FiniteBinary64, value.toRat = magnitude := by
  rcases Nat.eq_zero_or_pos magnitude with rfl | positive
  · refine ⟨.zero false, ?_⟩
    rw [toRat_eq]
    simp [FiniteBinary64.zero, signed]
  rcases small.eq_or_lt with rfl | narrow
  · refine ⟨⟨false, 2 ^ 52, 1, by decide⟩, ?_⟩
    rw [toRat_eq]
    norm_num [signed]
  · refine ⟨⟨false, _, _, isCanonical_shifted positive narrow⟩, ?_⟩
    have bits : magnitude.log2 < 53 := (Nat.log2_lt positive.ne').mpr narrow
    have unshifted : (2 : ℚ) ^ (52 - magnitude.log2) * 2 ^ ((magnitude.log2 : Int) - 52) = 1 := by
      rw [← zpow_natCast, ← zpow_add₀ (by norm_num), Nat.cast_sub (by omega)]
      simp
    rw [toRat_eq]
    simp only [signed, Bool.false_eq_true, if_false]
    push_cast
    rw [mul_assoc, unshifted, mul_one]

/-- Every integer of at most 53 bits is a double, and so is `2 ^ 53` itself. -/
theorem exists_toRat_eq {whole : Int} (small : whole.natAbs ≤ 2 ^ 53) :
    ∃ value : FiniteBinary64, value.toRat = whole := by
  rcases exists_toRat_eq_natCast small with ⟨value, exact⟩
  rcases Int.natAbs_eq whole with nonnegative | negative
  · refine ⟨value, ?_⟩
    rw [exact, nonnegative]
    simp
  · refine ⟨value.neg, ?_⟩
    rw [toRat_neg, exact, negative]
    simp

end CrdCompiler.FiniteBinary64
