import CrdCompiler.Proofs.RoundingIntervals
import Mathlib.Algebra.Order.Floor.Semifield
import Mathlib.Data.Rat.Floor

/-! # Shortest decimals

Every double encloses its shortest decimal: the search for a grid of decimals always ends at one
with a point that rounds to the double. So a decimal of that value, however it is written, is read
as the double.
-/

namespace CrdCompiler

/-! ## Powers of ten and of two -/

theorem ten_zpow_le_two_zpow {power exponent : Int} (above : 10 * power ≤ 3 * exponent)
    (below : 93 * power ≤ 28 * exponent) : (10 : ℚ) ^ power ≤ 2 ^ exponent := by
  rcases le_total 0 power with nonnegative | nonpositive
  · -- A thousand is less than the tenth power of two.
    apply (pow_le_pow_iff_left₀ (by positivity) (by positivity) (show 3 ≠ 0 by decide)).mp
    calc ((10 : ℚ) ^ power) ^ 3 = (10 ^ 3) ^ power := by
          rw [← zpow_natCast, ← zpow_mul, mul_comm, zpow_mul, zpow_natCast]
      _ ≤ (2 ^ 10) ^ power := zpow_le_zpow_left₀ nonnegative (by norm_num) (by norm_num)
      _ = 2 ^ (10 * power) := by rw [zpow_mul]; norm_num
      _ ≤ 2 ^ (exponent * 3) := zpow_le_zpow_right₀ (by norm_num) (by omega)
      _ = (2 ^ exponent) ^ 3 := by rw [zpow_mul, ← zpow_natCast]; rfl
  · -- The 93rd power of two is less than the 28th of ten.
    apply (pow_le_pow_iff_left₀ (by positivity) (by positivity) (show 28 ≠ 0 by decide)).mp
    rcases Int.exists_eq_neg_ofNat nonpositive with ⟨count, rfl⟩
    calc ((10 : ℚ) ^ (-(count : Int))) ^ 28 = ((10 ^ 28) ^ count)⁻¹ := by
          rw [zpow_neg, zpow_natCast, inv_pow, ← pow_mul, mul_comm, pow_mul]
      _ ≤ ((2 ^ 93) ^ count)⁻¹ :=
          inv_anti₀ (by positivity) (pow_le_pow_left₀ (by norm_num) (by norm_num) _)
      _ = 2 ^ (-(93 * count : Nat) : Int) := by rw [← pow_mul, zpow_neg, zpow_natCast]
      _ ≤ 2 ^ (exponent * 28) := zpow_le_zpow_right₀ (by norm_num) (by omega)
      _ = (2 ^ exponent) ^ 28 := by rw [zpow_mul, ← zpow_natCast]; rfl

theorem two_zpow_le_ten_zpow {power exponent : Int} (above : 3 * exponent ≤ 10 * power)
    (below : 28 * exponent ≤ 93 * power) : (2 : ℚ) ^ exponent ≤ 10 ^ power := by
  have inverted : (10 : ℚ) ^ (-power) ≤ 2 ^ (-exponent) :=
    ten_zpow_le_two_zpow (by omega) (by omega)
  rw [zpow_neg, zpow_neg] at inverted
  exact (inv_le_inv₀ (by positivity) (by positivity)).mp inverted

namespace FiniteBinary64

variable {value : FiniteBinary64} {digits steps : Nat} {power start : Int} {tie : DecimalTie}
  {interval : Interval}

/-! ## Points of a grid -/

theorem interval_unit (value : FiniteBinary64) :
    (value.interval.unit : ℚ) / value.interval.base = 2 ^ (value.exponent - 2) := by
  have ratio := Rounding.unscaled_ratio 1 1 (2 - value.exponent)
  rw [Nat.cast_one, div_one, one_div, ← zpow_neg, neg_sub] at ratio
  exact ratio

theorem interval_unit_pos (value : FiniteBinary64) : 0 < value.interval.unit := by
  apply Nat.pos_of_ne_zero
  intro zero
  have ratio := value.interval_unit
  rw [zero, Nat.cast_zero, zero_div] at ratio
  exact (zpow_ne_zero _ two_ne_zero) ratio.symm

theorem gridPoint_pos (value : FiniteBinary64) (digits : Nat) (power : Int) :
    0 < (value.interval.gridPoint digits power).2 := by
  unfold Interval.gridPoint
  split
  · exact value.interval_unit_pos
  · exact Nat.mul_pos value.interval_unit_pos (Nat.pow_pos (by decide))

theorem ten_zpow_of_nonneg (nonnegative : 0 ≤ power) :
    (10 : ℚ) ^ power = (10 ^ power.toNat : Nat) := by
  rw [Nat.cast_pow, ← zpow_natCast, Int.toNat_of_nonneg nonnegative]
  rfl

theorem ten_zpow_of_neg (negative : ¬ 0 ≤ power) :
    (10 : ℚ) ^ power = ((10 ^ (-power).toNat : Nat) : ℚ)⁻¹ := by
  rw [← ten_zpow_of_nonneg (show 0 ≤ -power by omega), zpow_neg, inv_inv]

theorem gridPoint_ratio (value : FiniteBinary64) (digits : Nat) (power : Int) :
    ((value.interval.gridPoint digits power).1 : ℚ) / (value.interval.gridPoint digits power).2 =
      digits * 10 ^ power / 2 ^ (value.exponent - 2) := by
  rw [← interval_unit]
  unfold Interval.gridPoint
  split
  · rename_i nonnegative
    rw [ten_zpow_of_nonneg nonnegative, div_div_eq_mul_div]
    simp
  · rename_i negative
    rw [ten_zpow_of_neg negative, div_div_eq_mul_div]
    simp only [Nat.pow_eq, Nat.cast_mul]
    ring

theorem holds_iff (value : FiniteBinary64) (digits : Nat) (power : Int) :
    value.interval.Holds digits power ↔ value.Encloses (digits * 10 ^ power) := by
  have unitPositive : (0 : ℚ) < 2 ^ (value.exponent - 2) := by positivity
  have ratio := value.gridPoint_ratio digits power
  have pointPositive : (0 : ℚ) < (value.interval.gridPoint digits power).2 := by
    exact_mod_cast value.gridPoint_pos digits power
  have closed : value.interval.closed = decide (value.mantissa % 2 = 0) := rfl
  have le_point (bound : Nat) : bound * (value.interval.gridPoint digits power).2 ≤
      (value.interval.gridPoint digits power).1 ↔
        bound * (2 : ℚ) ^ (value.exponent - 2) ≤ digits * 10 ^ power := by
    rw [← Nat.cast_le (α := ℚ), Nat.cast_mul, ← le_div_iff₀ pointPositive, ratio,
      le_div_iff₀ unitPositive]
  have point_le (bound : Nat) : (value.interval.gridPoint digits power).1 ≤
      bound * (value.interval.gridPoint digits power).2 ↔
        digits * (10 : ℚ) ^ power ≤ bound * 2 ^ (value.exponent - 2) := by
    rw [← Nat.cast_le (α := ℚ), Nat.cast_mul, ← div_le_iff₀ pointPositive, ratio,
      div_le_iff₀ unitPositive]
  unfold Interval.Holds
  simp only [closed, decide_eq_true_eq]
  split
  · rename_i even
    rw [le_point, point_le]
    exact ⟨fun ⟨lower, upper⟩ => ⟨lower, upper, absurd even⟩,
      fun encloses => ⟨encloses.lower, encloses.upper⟩⟩
  · rename_i odd
    rw [← not_le, ← not_le, point_le, le_point, not_le, not_le]
    exact ⟨fun ⟨lower, upper⟩ => ⟨lower.le, upper.le, fun _ => ⟨lower.ne, upper.ne⟩⟩,
      fun encloses => ⟨lt_of_le_of_ne encloses.lower (encloses.inside odd).1,
        lt_of_le_of_ne encloses.upper (encloses.inside odd).2⟩⟩

/-! ## The search for a grid -/

theorem nearest?_eq (tie : DecimalTie) (interval : Interval) (power : Int) :
    ∃ first second, interval.nearest? tie power =
        (if interval.Holds first power then some first
        else if interval.Holds second power then some second
        else none) ∧
      ((interval.valueOver power).1 / (interval.valueOver power).2 = first ∨
        (interval.valueOver power).1 / (interval.valueOver power).2 = second) := by
  unfold Interval.nearest?
  rcases interval.valueOver power with ⟨above, below⟩
  dsimp -zeta only
  extract_lets floor rest up
  clear_value up
  cases up with
  | false => exact ⟨_, _, rfl, .inl rfl⟩
  | true => exact ⟨_, _, rfl, .inr rfl⟩

theorem holds_of_nearest? (found : interval.nearest? tie power = some digits) :
    interval.Holds digits power := by
  rcases nearest?_eq tie interval power with ⟨first, second, searched, _⟩
  rw [searched] at found
  split at found
  · rename_i held
    cases found
    exact held
  · rcases Option.ite_none_right_eq_some.mp found with ⟨held, same⟩
    cases same
    exact held

theorem nearest?_isSome (tie : DecimalTie)
    (held : interval.Holds
      ((interval.valueOver power).1 / (interval.valueOver power).2) power) :
    (interval.nearest? tie power).isSome := by
  rcases nearest?_eq tie interval power with ⟨first, second, searched, floor⟩
  rw [searched]
  split
  · rfl
  · rename_i other
    rcases floor with floor | floor
    · exact absurd (floor ▸ held) other
    · rw [if_pos (floor ▸ held)]
      rfl

theorem holds_coarsest (last : (interval.nearest? tie (start - steps)).isSome) :
    interval.Holds (interval.coarsest tie start steps).1 (interval.coarsest tie start steps).2 := by
  induction steps generalizing start with
  | zero =>
      rcases Option.isSome_iff_exists.mp last with ⟨digits, found⟩
      rw [Nat.cast_zero, sub_zero] at found
      rw [Interval.coarsest, found]
      exact holds_of_nearest? found
  | succ steps induction =>
      rw [Interval.coarsest]
      split
      · rename_i found
        exact holds_of_nearest? found
      · apply induction
        rwa [sub_sub, add_comm, ← Nat.cast_succ]

/-! ## A grid that is fine enough -/

theorem valueOver_ratio (value : FiniteBinary64) (power : Int) :
    ((value.interval.valueOver power).1 : ℚ) / (value.interval.valueOver power).2 =
      4 * value.mantissa * 2 ^ (value.exponent - 2) / 10 ^ power := by
  have whole : value.interval.value = 4 * value.mantissa := rfl
  rw [← interval_unit]
  unfold Interval.valueOver
  split
  · rename_i nonnegative
    rw [ten_zpow_of_nonneg nonnegative, whole]
    simp only [Nat.pow_eq, Nat.cast_mul, Nat.cast_ofNat]
    ring
  · rename_i negative
    rw [ten_zpow_of_neg negative, whole, div_inv_eq_mul]
    simp only [Nat.pow_eq, Nat.cast_mul, Nat.cast_ofNat]
    ring

theorem encloses_of_between {number : ℚ} (nonzero : value.mantissa ≠ 0)
    (lower : (4 * value.mantissa - 1) * (2 : ℚ) ^ (value.exponent - 2) < number)
    (upper : number ≤ 4 * value.mantissa * (2 : ℚ) ^ (value.exponent - 2)) :
    value.Encloses number := by
  have unitPositive : (0 : ℚ) < 2 ^ (value.exponent - 2) := by positivity
  have above := (mul_le_mul_of_nonneg_right (cast_interval_lower_le nonzero)
    unitPositive.le).trans_lt lower
  have below : number < value.interval.upper * (2 : ℚ) ^ (value.exponent - 2) := by
    rw [cast_interval_upper]
    linarith
  exact ⟨above.le, below.le, fun _ => ⟨above.ne, below.ne⟩⟩

theorem nearest?_isSome_of_fine (tie : DecimalTie) (nonzero : value.mantissa ≠ 0)
    (fine : (10 : ℚ) ^ power ≤ 2 ^ (value.exponent - 2)) :
    (value.interval.nearest? tie power).isSome := by
  apply nearest?_isSome
  rw [holds_iff]
  have powerPositive : (0 : ℚ) < 10 ^ power := by positivity
  have ratio := value.valueOver_ratio power
  rw [eq_div_iff powerPositive.ne'] at ratio
  have floor := Nat.floor_div_eq_div (K := ℚ) (value.interval.valueOver power).1
    (value.interval.valueOver power).2
  generalize (value.interval.valueOver power).1 = above at *
  generalize (value.interval.valueOver power).2 = below at *
  have lower := Nat.floor_le (show (0 : ℚ) ≤ above / below by positivity)
  have upper := Nat.lt_floor_add_one ((above : ℚ) / below)
  rw [floor] at lower upper
  have lower' := mul_le_mul_of_nonneg_right lower powerPositive.le
  have upper' := mul_lt_mul_of_pos_right upper powerPositive
  rw [ratio] at lower' upper'
  apply encloses_of_between nonzero
  · linarith
  · exact lower'

theorem encloses_shortest (tie : DecimalTie) (nonzero : value.mantissa ≠ 0) :
    value.Encloses ((value.shortest tie).digits * 10 ^ (value.shortest tie).power) := by
  have bits : value.mantissa.log2 < 53 := (Nat.log2_lt nonzero).mpr value.canonical.1
  have range := value.canonical.2
  rw [shortest, if_neg nonzero, ← holds_iff]
  apply holds_coarsest
  apply nearest?_isSome_of_fine tie nonzero
  rw [leadingPower, Int.fdiv_eq_ediv_of_nonneg _ (by decide)]
  apply ten_zpow_le_two_zpow <;> omega

theorem shortest_digits_ne_zero (tie : DecimalTie) (nonzero : value.mantissa ≠ 0) :
    (value.shortest tie).digits ≠ 0 := by
  intro zero
  have positive := (encloses_shortest tie nonzero).positive nonzero
  simp [zero] at positive

theorem shortest_zero (tie : DecimalTie) (zero : value.mantissa = 0) :
    value.shortest tie = ⟨value.negative, 0, 0⟩ ∧ value = .zero value.negative := by
  have least : value.exponent = -1074 := by
    have canonical := value.canonical
    unfold IsCanonical at canonical
    omega
  refine ⟨if_pos zero, ?_⟩
  cases value
  cases zero
  cases least
  rfl

end FiniteBinary64

namespace Decimal

variable {decimal : Decimal} {value : FiniteBinary64}

theorem digits_bounds (digits : Nat) (positive : 0 < digits) :
    10 ^ ((Nat.toDigits 10 digits).length - 1) ≤ digits ∧
      digits < 10 ^ (Nat.toDigits 10 digits).length := by
  have inhabited : 0 < (Nat.toDigits 10 digits).length := Nat.length_toDigits_pos
  refine ⟨?_, (Nat.length_toDigits_le_iff (by decide) inhabited).mp le_rfl⟩
  by_contra less
  rcases Nat.eq_zero_or_pos ((Nat.toDigits 10 digits).length - 1) with single | more
  · rw [single] at less
    omega
  · have shorter := (Nat.length_toDigits_le_iff (b := 10) (by decide) more).mpr (not_le.mp less)
    omega

/-- A decimal that a double encloses is read as the double. -/
theorem toBinary64_of_encloses (nonzero : value.mantissa ≠ 0)
    (sign : decimal.negative = value.negative)
    (encloses : value.Encloses (decimal.digits * 10 ^ decimal.power)) :
    decimal.toBinary64 = .finite value := by
  have range := value.canonical.2
  have positive := encloses.positive nonzero
  have digitsPositive : 0 < decimal.digits := by
    apply Nat.pos_of_ne_zero
    intro zero
    simp [zero] at positive
  rcases digits_bounds decimal.digits digitsPositive with ⟨lower, upper⟩
  have inhabited : 0 < (Nat.toDigits 10 decimal.digits).length := Nat.length_toDigits_pos
  unfold toBinary64
  generalize (Nat.toDigits 10 decimal.digits).length = count at *
  have powerPositive : (0 : ℚ) < 10 ^ decimal.power := by positivity
  have notSmall : ¬ (count : Int) + decimal.power < -330 := by
    intro small
    have below : (decimal.digits : ℚ) ≤ 10 ^ (count : Int) := by exact_mod_cast upper.le
    have bound : decimal.digits * (10 : ℚ) ^ decimal.power ≤ 2 ^ (-1076 : Int) :=
      calc decimal.digits * (10 : ℚ) ^ decimal.power
          ≤ 10 ^ (count : Int) * 10 ^ decimal.power :=
            mul_le_mul_of_nonneg_right below powerPositive.le
        _ = 10 ^ (count + decimal.power) := (zpow_add₀ (by norm_num) _ _).symm
        _ ≤ 2 ^ (-1076 : Int) := ten_zpow_le_two_zpow (by omega) (by omega)
    have exponents := (zpow_le_zpow_iff_right₀ (by norm_num)).mp
      ((encloses.large nonzero).trans bound)
    omega
  have notLarge : ¬ 310 < (count : Int) + decimal.power := by
    intro large
    have above : (10 : ℚ) ^ ((count - 1 : Nat) : Int) ≤ decimal.digits := by exact_mod_cast lower
    have bound : (2 : ℚ) ^ (1024 : Int) ≤ decimal.digits * 10 ^ decimal.power :=
      calc (2 : ℚ) ^ (1024 : Int)
          ≤ 10 ^ (((count - 1 : Nat) : Int) + decimal.power) :=
            two_zpow_le_ten_zpow (by omega) (by omega)
        _ = 10 ^ ((count - 1 : Nat) : Int) * 10 ^ decimal.power := zpow_add₀ (by norm_num) _ _
        _ ≤ decimal.digits * 10 ^ decimal.power :=
            mul_le_mul_of_nonneg_right above powerPositive.le
    have exponents := (zpow_lt_zpow_iff_right₀ (by norm_num)).mp (bound.trans_lt encloses.few)
    omega
  dsimp only
  rw [if_neg (not_or.mpr ⟨digitsPositive.ne', notSmall⟩), if_neg notLarge, sign]
  split
  · rename_i nonnegative
    apply FiniteBinary64.Encloses.ofFraction_eq Nat.one_pos _ nonzero
    simpa [FiniteBinary64.ten_zpow_of_nonneg nonnegative] using encloses
  · rename_i negative
    apply FiniteBinary64.Encloses.ofFraction_eq (Nat.pow_pos (by decide)) _ nonzero
    simpa [FiniteBinary64.ten_zpow_of_neg negative, div_eq_mul_inv] using encloses

/-- A decimal of the value of the shortest decimal of a double is read as the double. -/
theorem toBinary64_of_shortest (value : FiniteBinary64) (tie : DecimalTie)
    (sign : decimal.negative = value.negative)
    (same : decimal.digits * (10 : ℚ) ^ decimal.power =
      (value.shortest tie).digits * 10 ^ (value.shortest tie).power) :
    decimal.toBinary64 = .finite value := by
  by_cases zero : value.mantissa = 0
  · rcases FiniteBinary64.shortest_zero tie zero with ⟨shortest, isZero⟩
    have powerPositive : (0 : ℚ) < 10 ^ decimal.power := by positivity
    have noDigits : decimal.digits = 0 := by simpa [shortest, powerPositive.ne'] using same
    rw [isZero, toBinary64, if_pos (.inl noDigits), sign]
  · have encloses := FiniteBinary64.encloses_shortest tie zero
    rw [← same] at encloses
    exact toBinary64_of_encloses zero sign encloses

end Decimal

end CrdCompiler
