import CrdCompiler.Number.Integer64
import CrdCompiler.Proofs.ExactValue

/-! # Rounding to the nearest double

Arithmetic on doubles is exact arithmetic followed by one rounding, and no finite double is nearer
to the exact result than the rounded one. In particular a result that is a double is returned
unchanged.
-/

namespace CrdCompiler

namespace Rounding

/-! ## Integers nearest a fraction -/

theorem quotient_half (numerator : Nat) {denominator : Nat} (positive : 0 < denominator) :
    2 * |(quotient numerator denominator * denominator - numerator : Int)| ≤ denominator := by
  have division : (numerator : Int) =
      (numerator / denominator : Nat) * denominator + (numerator % denominator : Nat) := by
    rw [mul_comm]
    exact_mod_cast (Nat.div_add_mod numerator denominator).symm
  have remainder : numerator % denominator < denominator := Nat.mod_lt _ positive
  unfold quotient
  generalize numerator / denominator = whole at *
  generalize numerator % denominator = rest at *
  simp only [abs_eq_max_neg]
  split
  · omega
  split
  · push_cast [add_mul]
    omega
  · -- A tie is as far from either neighbour.
    rcases Nat.mod_two_eq_zero_or_one whole with even | odd
    · rw [even, add_zero]
      omega
    · rw [odd]
      push_cast [add_mul]
      omega

theorem le_distances_of_ne {numerator denominator : Nat} {other : Int}
    (different : other ≠ quotient numerator denominator) :
    (denominator : Int) ≤ |other * denominator - numerator| +
      |(quotient numerator denominator * denominator - numerator : Int)| := by
  have steps : 1 ≤ |other - quotient numerator denominator| :=
    Int.one_le_abs (sub_ne_zero.mpr different)
  calc (denominator : Int)
      ≤ |other - quotient numerator denominator| * denominator :=
        le_mul_of_one_le_left (Int.natCast_nonneg denominator) steps
    _ = |(other * denominator - numerator) -
          (quotient numerator denominator * denominator - numerator)| := by
        rw [sub_sub_sub_cancel_right, ← sub_mul, abs_mul, Nat.abs_cast]
    _ ≤ _ := abs_sub _ _

theorem quotient_mul_nearest (numerator : Nat) {denominator : Nat} (positive : 0 < denominator)
    (other : Int) :
    |(quotient numerator denominator * denominator - numerator : Int)| ≤
      |other * denominator - numerator| := by
  rcases eq_or_ne other (quotient numerator denominator) with rfl | different
  · exact le_rfl
  have half := quotient_half numerator positive
  have apart := le_distances_of_ne different
  omega

theorem quotient_even_of_tie {numerator denominator : Nat} (positive : 0 < denominator)
    {other : Int} (different : other ≠ quotient numerator denominator)
    (tied : |other * denominator - numerator| =
      |(quotient numerator denominator * denominator - numerator : Int)|) :
    quotient numerator denominator % 2 = 0 := by
  have apart := le_distances_of_ne different
  rw [tied] at apart
  have division : (numerator : Int) =
      (numerator / denominator : Nat) * denominator + (numerator % denominator : Nat) := by
    rw [mul_comm]
    exact_mod_cast (Nat.div_add_mod numerator denominator).symm
  have remainder : numerator % denominator < denominator := Nat.mod_lt _ positive
  unfold quotient at apart ⊢
  generalize numerator / denominator = whole at *
  generalize numerator % denominator = rest at *
  simp only [abs_eq_max_neg] at apart
  -- Off the middle, the nearer integer is less than half a unit away.
  split at apart
  · omega
  split at apart
  · push_cast [add_mul] at apart
    omega
  · rw [if_neg ‹_›, if_neg ‹_›]
    omega

/-! ## The exponent of the last place -/

theorem unscaled_positive (numerator : Nat) {denominator : Nat} (positive : 0 < denominator)
    (exponent : Int) : 0 < (unscaled numerator denominator exponent).2 := by
  unfold unscaled
  split
  · exact Nat.mul_pos positive (Nat.two_pow_pos _)
  · exact positive

theorem unscaled_ratio (numerator denominator : Nat) (exponent : Int) :
    ((unscaled numerator denominator exponent).1 : ℚ) /
        (unscaled numerator denominator exponent).2 =
      numerator / denominator / 2 ^ exponent := by
  unfold unscaled
  split
  · rename_i nonnegative
    have power : (2 : ℚ) ^ exponent = 2 ^ exponent.toNat := by
      rw [← zpow_natCast, Int.toNat_of_nonneg nonnegative]
    rw [power, div_div]
    simp
  · rename_i negative
    have power : (2 : ℚ) ^ exponent = (2 ^ (-exponent).toNat)⁻¹ := by
      rw [← zpow_natCast, ← zpow_neg]
      congr 1
      omega
    rw [power, div_inv_eq_mul]
    simp [div_mul_eq_mul_div]

theorem abs_gridPoint_sub (numerator : Nat) {denominator : Nat} (positive : 0 < denominator)
    (exponent : Int) (point : ℚ) :
    |point * 2 ^ exponent - numerator / denominator| =
      |point * (unscaled numerator denominator exponent).2 -
          (unscaled numerator denominator exponent).1| *
        (2 ^ exponent / (unscaled numerator denominator exponent).2) := by
  have ratio := unscaled_ratio numerator denominator exponent
  have unitPositive : (0 : ℚ) < (unscaled numerator denominator exponent).2 := by
    exact_mod_cast unscaled_positive numerator positive exponent
  generalize unscaled numerator denominator exponent = scaled at *
  have powerPositive : (0 : ℚ) < 2 ^ exponent := by positivity
  have value : (numerator / denominator : ℚ) = scaled.1 / scaled.2 * 2 ^ exponent := by
    rw [ratio, div_mul_cancel₀ _ powerPositive.ne']
  have factor : point * 2 ^ exponent - numerator / denominator =
      (point * scaled.2 - scaled.1) * (2 ^ exponent / scaled.2) := by
    rw [value]
    field_simp
  rw [factor, abs_mul, abs_of_pos (div_pos powerPositive unitPositive)]

theorem gridPoint_nearest (numerator : Nat) {denominator : Nat} (positive : 0 < denominator)
    (exponent point : Int) :
    |quotient (unscaled numerator denominator exponent).1
          (unscaled numerator denominator exponent).2 * (2 : ℚ) ^ exponent -
        numerator / denominator| ≤
      |point * (2 : ℚ) ^ exponent - numerator / denominator| := by
  rw [abs_gridPoint_sub numerator positive, abs_gridPoint_sub numerator positive]
  apply mul_le_mul_of_nonneg_right _ (by positivity)
  exact_mod_cast quotient_mul_nearest _ (unscaled_positive numerator positive exponent) point

theorem gridPoint_even_of_tie {numerator denominator : Nat} (positive : 0 < denominator)
    {exponent point : Int}
    (different : point ≠ quotient (unscaled numerator denominator exponent).1
      (unscaled numerator denominator exponent).2)
    (tied : |point * (2 : ℚ) ^ exponent - numerator / denominator| =
      |quotient (unscaled numerator denominator exponent).1
          (unscaled numerator denominator exponent).2 * (2 : ℚ) ^ exponent -
        numerator / denominator|) :
    quotient (unscaled numerator denominator exponent).1
      (unscaled numerator denominator exponent).2 % 2 = 0 := by
  have unitPositive := unscaled_positive numerator positive exponent
  rw [abs_gridPoint_sub numerator positive, abs_gridPoint_sub numerator positive] at tied
  have distances := mul_right_cancel₀ (by positivity) tied
  apply quotient_even_of_tie unitPositive different
  exact_mod_cast distances

theorem unscaled_lt_iff (numerator : Nat) {denominator : Nat} (positive : 0 < denominator)
    (exponent : Int) :
    (unscaled numerator denominator exponent).1 < (unscaled numerator denominator exponent).2 ↔
      (numerator / denominator : ℚ) < 2 ^ exponent := by
  have belowPositive : (0 : ℚ) < (unscaled numerator denominator exponent).2 := by
    exact_mod_cast unscaled_positive numerator positive exponent
  rw [← div_lt_one (show (0 : ℚ) < 2 ^ exponent by positivity), ← unscaled_ratio,
    div_lt_one belowPositive]
  exact Nat.cast_lt.symm

/-- Unless the exponent is the least one, the fraction fills all 53 bits of a mantissa. -/
theorem exponentFor_eq_or_le {numerator denominator : Nat} (above : 0 < numerator)
    (below : 0 < denominator) :
    exponentFor numerator denominator = -1074 ∨
      (2 : ℚ) ^ (exponentFor numerator denominator + 52) ≤ numerator / denominator := by
  have denominatorPositive : (0 : ℚ) < denominator := by positivity
  have numeratorLower : (2 : ℚ) ^ (numerator.log2 : Int) ≤ numerator := by
    exact_mod_cast Nat.log2_self_le above.ne'
  have denominatorUpper : (denominator : ℚ) ≤ 2 ^ ((denominator.log2 : Int) + 1) := by
    exact_mod_cast Nat.lt_log2_self.le
  have lower : (2 : ℚ) ^ ((numerator.log2 : Int) - denominator.log2 - 1) ≤
      numerator / denominator := by
    rw [le_div_iff₀ denominatorPositive]
    calc (2 : ℚ) ^ ((numerator.log2 : Int) - denominator.log2 - 1) * denominator
        ≤ 2 ^ ((numerator.log2 : Int) - denominator.log2 - 1) *
            2 ^ ((denominator.log2 : Int) + 1) :=
          mul_le_mul_of_nonneg_left denominatorUpper (by positivity)
      _ = 2 ^ (numerator.log2 : Int) := by
          rw [← zpow_add₀ (by norm_num)]
          congr 1
          omega
      _ ≤ numerator := numeratorLower
  have decided := unscaled_lt_iff numerator below ((numerator.log2 : Int) - denominator.log2)
  unfold exponentFor
  simp only
  split
  · rcases le_total (-1074 : Int) ((numerator.log2 : Int) - denominator.log2 - 53) with le | le
    · right
      rw [max_eq_right le]
      convert lower using 2
      omega
    · exact .inl (max_eq_left le)
  · rename_i filled
    rcases le_total (-1074 : Int) ((numerator.log2 : Int) - denominator.log2 - 52) with le | le
    · right
      rw [max_eq_right le, sub_add_cancel]
      exact not_lt.mp (mt decided.mpr filled)
    · exact .inl (max_eq_left le)

theorem ratio_lt_exponentFor (numerator : Nat) {denominator : Nat} (below : 0 < denominator) :
    (numerator / denominator : ℚ) < 2 ^ (exponentFor numerator denominator + 53) := by
  have denominatorPositive : (0 : ℚ) < denominator := by positivity
  have numeratorUpper : (numerator : ℚ) < 2 ^ ((numerator.log2 : Int) + 1) := by
    exact_mod_cast Nat.lt_log2_self
  have denominatorLower : (2 : ℚ) ^ (denominator.log2 : Int) ≤ denominator := by
    exact_mod_cast Nat.log2_self_le below.ne'
  have upper : (numerator / denominator : ℚ) <
      2 ^ ((numerator.log2 : Int) - denominator.log2 + 1) := by
    rw [div_lt_iff₀ denominatorPositive]
    calc (numerator : ℚ) < 2 ^ ((numerator.log2 : Int) + 1) := numeratorUpper
      _ = 2 ^ ((numerator.log2 : Int) - denominator.log2 + 1) * 2 ^ (denominator.log2 : Int) := by
          rw [← zpow_add₀ (by norm_num)]
          congr 1
          omega
      _ ≤ 2 ^ ((numerator.log2 : Int) - denominator.log2 + 1) * denominator :=
          mul_le_mul_of_nonneg_left denominatorLower (by positivity)
  have decided := unscaled_lt_iff numerator below ((numerator.log2 : Int) - denominator.log2)
  unfold exponentFor
  simp only
  split
  · rename_i short
    exact (decided.mp short).trans_le (zpow_le_zpow_right₀ (by norm_num) (by omega))
  · exact upper.trans_le (zpow_le_zpow_right₀ (by norm_num) (by omega))

theorem le_quotient {numerator denominator lower : Nat} (positive : 0 < denominator)
    (above : lower * denominator ≤ numerator) : lower ≤ quotient numerator denominator := by
  have whole : lower ≤ numerator / denominator := (Nat.le_div_iff_mul_le positive).mpr above
  unfold quotient
  dsimp only
  split
  · exact whole
  · split <;> omega

theorem quotient_le {numerator denominator upper : Nat} (positive : 0 < denominator)
    (below : numerator < upper * denominator) : quotient numerator denominator ≤ upper := by
  have whole : numerator / denominator < upper := (Nat.div_lt_iff_lt_mul positive).mpr below
  unfold quotient
  dsimp only
  split
  · omega
  · split <;> omega

/-- The rounded quotient at the exponent of the last place has at most one bit too many, and fills
the mantissa unless the exponent is the least one. -/
theorem quotient_exponentFor {numerator denominator : Nat} (above : 0 < numerator)
    (below : 0 < denominator) :
    quotient (unscaled numerator denominator (exponentFor numerator denominator)).1
        (unscaled numerator denominator (exponentFor numerator denominator)).2 ≤ 2 ^ 53 ∧
      (exponentFor numerator denominator = -1074 ∨
        2 ^ 52 ≤ quotient (unscaled numerator denominator (exponentFor numerator denominator)).1
          (unscaled numerator denominator (exponentFor numerator denominator)).2) := by
  have filled := exponentFor_eq_or_le above below
  have upper := ratio_lt_exponentFor numerator below
  have ratio := unscaled_ratio numerator denominator (exponentFor numerator denominator)
  have positive := unscaled_positive numerator below (exponentFor numerator denominator)
  generalize exponentFor numerator denominator = exponent at *
  generalize (unscaled numerator denominator exponent).1 = scaled at *
  generalize (unscaled numerator denominator exponent).2 = unit at *
  have powerPositive : (0 : ℚ) < 2 ^ exponent := by positivity
  have unitPositive : (0 : ℚ) < unit := by exact_mod_cast positive
  have few : scaled < 2 ^ 53 * unit := by
    rw [zpow_add₀ (by norm_num), ← div_lt_iff₀' powerPositive, ← ratio,
      div_lt_iff₀ unitPositive] at upper
    exact_mod_cast upper
  refine ⟨quotient_le positive few, filled.imp_right ?_⟩
  intro full
  rw [zpow_add₀ (by norm_num), ← le_div_iff₀' powerPositive, ← ratio, le_div_iff₀ unitPositive]
    at full
  exact le_quotient positive (by exact_mod_cast full)

end Rounding

/-! ## Doubles nearest a number -/

/-- A double lies on the grid of a larger exponent, unless it has too few bits for that grid. -/
theorem FiniteBinary64.onGrid_or_small (value : FiniteBinary64) (exponent : Int) :
    (∃ units : Int, value.toRat = units * (2 : ℚ) ^ exponent) ∨
      -1074 < exponent ∧ |value.toRat| ≤ 2 ^ (exponent + 52) := by
  rcases le_or_gt exponent value.exponent with ordered | ordered
  · exact .inl ⟨_, value.toRat_eq_unitsAt ordered⟩
  · right
    have least : -1074 ≤ value.exponent := value.canonical.2.1
    refine ⟨by omega, ?_⟩
    have narrow : (value.mantissa : ℚ) ≤ 2 ^ (53 : Int) := by
      exact_mod_cast value.canonical.1.le
    rw [value.abs_toRat]
    calc (value.mantissa : ℚ) * 2 ^ value.exponent
        ≤ 2 ^ (53 : Int) * 2 ^ value.exponent := mul_le_mul_of_nonneg_right narrow (by positivity)
      _ = 2 ^ (53 + value.exponent) := (zpow_add₀ (by norm_num) _ _).symm
      _ ≤ 2 ^ (exponent + 52) := zpow_le_zpow_right₀ (by norm_num) (by omega)

namespace Binary64

def signFactor (negative : Bool) : ℚ :=
  if negative then -1 else 1

theorem abs_signFactor (negative : Bool) : |signFactor negative| = 1 := by
  cases negative <;> simp [signFactor]

theorem signFactor_mul_self (negative : Bool) :
    signFactor negative * signFactor negative = 1 := by
  cases negative <;> simp [signFactor]

theorem toRat_eq_signFactor (value : FiniteBinary64) :
    value.toRat = signFactor value.negative * (value.mantissa * (2 : ℚ) ^ value.exponent) := by
  rw [value.toRat_eq, FiniteBinary64.signed, signFactor]
  split <;> simp

theorem ofFraction_finite (negative : Bool) {numerator denominator : Nat} (below : 0 < denominator)
    (small : (numerator / denominator : ℚ) < 2 ^ (1023 : Int)) :
    ∃ result, ofFraction negative numerator denominator = .finite result := by
  unfold ofFraction
  rcases Nat.eq_zero_or_pos numerator with rfl | above
  · exact ⟨_, if_pos rfl⟩
  have least : -1074 ≤ Rounding.exponentFor numerator denominator := by
    unfold Rounding.exponentFor
    exact le_max_left _ _
  have greatest : Rounding.exponentFor numerator denominator ≤ 970 := by
    rcases Rounding.exponentFor_eq_or_le above below with low | full
    · omega
    · have exponents := (zpow_lt_zpow_iff_right₀ (by norm_num)).mp (full.trans_lt small)
      omega
  rcases Rounding.quotient_exponentFor above below with ⟨few, filled⟩
  simp only [above.ne', if_false]
  generalize Rounding.exponentFor numerator denominator = exponent at *
  generalize Rounding.quotient _ _ = units at *
  have canonical : IsCanonical
      (if units = 9007199254740992 then (4503599627370496, exponent + 1) else (units, exponent)).1
      (if units = 9007199254740992 then (4503599627370496, exponent + 1)
        else (units, exponent)).2 := by
    unfold IsCanonical
    split <;> dsimp only <;> omega
  exact ⟨_, dif_pos canonical⟩

theorem ofInt_finite (number : Integer64) :
    ∃ result, ofInt number.value = .finite result := by
  apply ofFraction_finite _ Nat.one_pos
  have fits : number.value.natAbs < 2 ^ 64 := by
    have range := number.fits
    omega
  calc ((number.value.natAbs : ℚ) / (1 : Nat)) < 2 ^ 64 := by
        rw [Nat.cast_one, div_one]
        exact_mod_cast fits
    _ ≤ 2 ^ (1023 : Int) := by
        rw [← zpow_natCast]
        exact zpow_le_zpow_right₀ (by norm_num) (by norm_num)

/-- A rounded fraction is its rounded quotient at the exponent of its last place; a carry out of
the mantissa changes only how that number is written. -/
theorem toRat_of_ofFraction {negative : Bool} {numerator denominator : Nat}
    {result : FiniteBinary64} (above : numerator ≠ 0)
    (rounded : ofFraction negative numerator denominator = .finite result) :
    result.toRat = signFactor negative *
      (Rounding.quotient
        (Rounding.unscaled numerator denominator (Rounding.exponentFor numerator denominator)).1
        (Rounding.unscaled numerator denominator (Rounding.exponentFor numerator denominator)).2 *
        (2 : ℚ) ^ Rounding.exponentFor numerator denominator) := by
  unfold ofFraction at rounded
  simp only [above, if_false] at rounded
  generalize Rounding.quotient _ _ = units at *
  split at rounded
  · rename_i carry
    subst carry
    split at rounded
    · cases rounded
      rw [toRat_eq_signFactor]
      simp only
      rw [zpow_add₀ (by norm_num)]
      push_cast
      ring
    · cases rounded
  · split at rounded
    · cases rounded
      rw [toRat_eq_signFactor]
    · cases rounded

/-- A double with too few bits for the grid of the last place is no further from a positive fraction
than the least mantissa of full length, which is on that grid. -/
theorem full_mantissa_between {numerator denominator : Nat} (above : 0 < numerator)
    (below : 0 < denominator) {other : FiniteBinary64}
    (notLeast : -1074 < Rounding.exponentFor numerator denominator)
    (small : |other.toRat| ≤ 2 ^ (Rounding.exponentFor numerator denominator + 52)) :
    other.toRat ≤ ((2 ^ 52 : Int) : ℚ) * 2 ^ Rounding.exponentFor numerator denominator ∧
      ((2 ^ 52 : Int) : ℚ) * 2 ^ Rounding.exponentFor numerator denominator ≤
        numerator / denominator := by
  have onPoint : ((2 ^ 52 : Int) : ℚ) * 2 ^ Rounding.exponentFor numerator denominator =
      2 ^ (Rounding.exponentFor numerator denominator + 52) := by
    rw [zpow_add₀ (by norm_num), mul_comm]
    norm_num
  rw [onPoint]
  refine ⟨(le_abs_self _).trans small, ?_⟩
  rcases Rounding.exponentFor_eq_or_le above below with least | full
  · omega
  · exact full

theorem quotient_mul_zpow_nearest {numerator denominator : Nat} (above : 0 < numerator)
    (below : 0 < denominator) (other : FiniteBinary64) :
    |Rounding.quotient
        (Rounding.unscaled numerator denominator (Rounding.exponentFor numerator denominator)).1
        (Rounding.unscaled numerator denominator (Rounding.exponentFor numerator denominator)).2 *
        (2 : ℚ) ^ Rounding.exponentFor numerator denominator - numerator / denominator| ≤
      |other.toRat - numerator / denominator| := by
  have onGrid := Rounding.gridPoint_nearest numerator below
    (Rounding.exponentFor numerator denominator)
  rcases other.onGrid_or_small (Rounding.exponentFor numerator denominator) with
    ⟨point, onPoint⟩ | ⟨notLeast, small⟩
  · rw [onPoint]
    exact onGrid point
  · rcases full_mantissa_between above below notLeast small with ⟨upper, full⟩
    have least := onGrid (2 ^ 52)
    rw [abs_of_nonpos (sub_nonpos.mpr full)] at least
    rw [abs_of_nonpos (sub_nonpos.mpr (upper.trans full))]
    exact least.trans (neg_le_neg (sub_le_sub_right upper _))

theorem quotient_even_of_tie_double {numerator denominator : Nat} (above : 0 < numerator)
    (below : 0 < denominator) (other : FiniteBinary64)
    (different : other.toRat ≠ Rounding.quotient
        (Rounding.unscaled numerator denominator (Rounding.exponentFor numerator denominator)).1
        (Rounding.unscaled numerator denominator (Rounding.exponentFor numerator denominator)).2 *
        (2 : ℚ) ^ Rounding.exponentFor numerator denominator)
    (tied : |other.toRat - numerator / denominator| = |Rounding.quotient
        (Rounding.unscaled numerator denominator (Rounding.exponentFor numerator denominator)).1
        (Rounding.unscaled numerator denominator (Rounding.exponentFor numerator denominator)).2 *
        (2 : ℚ) ^ Rounding.exponentFor numerator denominator - numerator / denominator|) :
    Rounding.quotient
      (Rounding.unscaled numerator denominator (Rounding.exponentFor numerator denominator)).1
      (Rounding.unscaled numerator denominator (Rounding.exponentFor numerator denominator)).2 % 2 =
        0 := by
  have onGrid (point : Int) (same : other.toRat =
      point * 2 ^ Rounding.exponentFor numerator denominator) : Rounding.quotient
        (Rounding.unscaled numerator denominator (Rounding.exponentFor numerator denominator)).1
        (Rounding.unscaled numerator denominator (Rounding.exponentFor numerator denominator)).2 %
          2 = 0 := by
    rw [same] at different tied
    apply Rounding.gridPoint_even_of_tie below _ tied
    intro equal
    rw [equal, Int.cast_natCast] at different
    exact different rfl
  rcases other.onGrid_or_small (Rounding.exponentFor numerator denominator) with
    ⟨point, onPoint⟩ | ⟨notLeast, small⟩
  · exact onGrid point onPoint
  · -- A double with fewer bits can only tie if it is the least mantissa of full length itself.
    rcases full_mantissa_between above below notLeast small with ⟨upper, full⟩
    have least := Rounding.gridPoint_nearest numerator below
      (Rounding.exponentFor numerator denominator) (2 ^ 52)
    apply onGrid (2 ^ 52)
    rw [← tied, abs_of_nonpos (sub_nonpos.mpr (upper.trans full)),
      abs_of_nonpos (sub_nonpos.mpr full), neg_le_neg_iff, sub_le_sub_iff_right] at least
    exact le_antisymm upper least

theorem toRat_neg_if (negative : Bool) (number : FiniteBinary64) :
    (if negative then number.neg else number).toRat = signFactor negative * number.toRat := by
  cases negative <;> simp [signFactor, FiniteBinary64.toRat_neg]

/-- No double is nearer to a fraction than the one it is rounded to. -/
theorem ofFraction_nearest {negative : Bool} {numerator denominator : Nat}
    {result : FiniteBinary64} (below : 0 < denominator)
    (rounded : ofFraction negative numerator denominator = .finite result)
    (other : FiniteBinary64) :
    |result.toRat - signFactor negative * (numerator / denominator)| ≤
      |other.toRat - signFactor negative * (numerator / denominator)| := by
  rcases Nat.eq_zero_or_pos numerator with rfl | above
  · have zero : result = .zero negative := by
      simpa [ofFraction] using rounded.symm
    rw [zero, toRat_eq_signFactor]
    simp [FiniteBinary64.zero]
  · have unsign (magnitude : ℚ) : |other.toRat - signFactor negative * magnitude| =
        |signFactor negative * other.toRat - magnitude| := by
      rw [← one_mul |other.toRat - signFactor negative * magnitude|, ← abs_signFactor negative,
        ← abs_mul, mul_sub, ← mul_assoc, signFactor_mul_self, one_mul]
    rw [toRat_of_ofFraction above.ne' rounded, ← mul_sub, abs_mul, abs_signFactor, one_mul, unsign]
    have nearest := quotient_mul_zpow_nearest above below
      (if negative then other.neg else other)
    rwa [toRat_neg_if] at nearest

theorem even_mantissa_of_ofFraction {negative : Bool} {numerator denominator : Nat}
    {result : FiniteBinary64} (above : numerator ≠ 0)
    (rounded : ofFraction negative numerator denominator = .finite result)
    (even : Rounding.quotient
      (Rounding.unscaled numerator denominator (Rounding.exponentFor numerator denominator)).1
      (Rounding.unscaled numerator denominator (Rounding.exponentFor numerator denominator)).2 % 2 =
        0) : result.mantissa % 2 = 0 := by
  unfold ofFraction at rounded
  simp only [above, if_false] at rounded
  generalize Rounding.quotient _ _ = units at *
  split at rounded
  · split at rounded
    · cases rounded
      norm_num
    · cases rounded
  · split at rounded
    · cases rounded
      exact even
    · cases rounded

/-- Where another double is as near to a fraction, the one it is rounded to has an even mantissa. -/
theorem ofFraction_even_of_tie {negative : Bool} {numerator denominator : Nat}
    {result other : FiniteBinary64} (below : 0 < denominator)
    (rounded : ofFraction negative numerator denominator = .finite result)
    (different : other.toRat ≠ result.toRat)
    (tied : |other.toRat - signFactor negative * (numerator / denominator)| =
      |result.toRat - signFactor negative * (numerator / denominator)|) :
    result.mantissa % 2 = 0 := by
  rcases Nat.eq_zero_or_pos numerator with rfl | above
  · have zero : result = .zero negative := by
      simpa [ofFraction] using rounded.symm
    rw [zero]
    rfl
  apply even_mantissa_of_ofFraction above.ne' rounded
  have value := toRat_of_ofFraction above.ne' rounded
  have signed := toRat_neg_if negative other
  have unsigned : signFactor negative * (signFactor negative * other.toRat) = other.toRat := by
    rw [← mul_assoc, signFactor_mul_self, one_mul]
  refine quotient_even_of_tie_double above below (if negative then other.neg else other) ?_ ?_
  · intro same
    rw [signed] at same
    rw [← same, unsigned] at value
    exact different value.symm
  · rw [value, ← mul_sub, abs_mul, abs_signFactor, one_mul] at tied
    rw [← tied, signed]
    conv_rhs => rw [← unsigned, ← mul_sub, abs_mul, abs_signFactor, one_mul]

/-! ## Sums -/

theorem ofScaled_nearest {negative : Bool} {magnitude : Nat} {exponent : Int}
    {result : FiniteBinary64} (rounded : ofScaled negative magnitude exponent = .finite result)
    (other : FiniteBinary64) :
    |result.toRat - signFactor negative * (magnitude * (2 : ℚ) ^ exponent)| ≤
      |other.toRat - signFactor negative * (magnitude * (2 : ℚ) ^ exponent)| := by
  have ratio := Rounding.unscaled_ratio magnitude 1 (-exponent)
  rw [Nat.cast_one, div_one, zpow_neg, div_inv_eq_mul] at ratio
  rw [← ratio]
  exact ofFraction_nearest (Rounding.unscaled_positive magnitude Nat.one_pos _) rounded other

theorem addFinite_nearest {left right result : FiniteBinary64}
    (added : addFinite left right = .finite result) (other : FiniteBinary64) :
    |result.toRat - (left.toRat + right.toRat)| ≤ |other.toRat - (left.toRat + right.toRat)| := by
  unfold addFinite at added
  simp only at added
  have exact : left.toRat + right.toRat =
      (left.unitsAt (min left.exponent right.exponent) +
        right.unitsAt (min left.exponent right.exponent) : Int) *
        (2 : ℚ) ^ min left.exponent right.exponent := by
    rw [left.toRat_eq_unitsAt (min_le_left _ _), right.toRat_eq_unitsAt (min_le_right _ _)]
    push_cast
    ring
  rw [exact]
  generalize left.unitsAt _ + right.unitsAt _ = sum at *
  split at added
  · rename_i zero
    cases added
    rw [zero, toRat_eq_signFactor]
    simp [FiniteBinary64.zero]
  · have nearest := ofScaled_nearest added other
    have signed : signFactor (decide (sum < 0)) * (sum.natAbs : ℚ) = sum := by
      rw [Nat.cast_natAbs, signFactor]
      rcases lt_or_ge sum 0 with negative | nonnegative
      · simp [negative, abs_of_neg negative]
      · simp [not_lt.mpr nonnegative, abs_of_nonneg nonnegative]
    rwa [← mul_assoc, signed] at nearest

/-- A sum that is a double is returned exactly. -/
theorem addFinite_exact {left right result total : FiniteBinary64}
    (added : addFinite left right = .finite result)
    (exact : left.toRat + right.toRat = total.toRat) : result.toRat = total.toRat := by
  have nearest := addFinite_nearest added total
  rw [exact, sub_self, abs_zero] at nearest
  exact sub_eq_zero.mp (abs_nonpos_iff.mp nearest)

end Binary64

end CrdCompiler
