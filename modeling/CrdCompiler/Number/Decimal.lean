import CrdCompiler.Number.Binary64

/-!
Decimal notation: reading it into the nearest double, and the shortest digits that read back as a
given double.
-/

namespace CrdCompiler

/-- `digits · 10 ^ power`, possibly negative. -/
structure Decimal where
  negative : Bool
  digits : Nat
  power : Int
deriving DecidableEq, Repr

namespace Decimal

/-- The double nearest the decimal. Powers far outside the range of doubles are settled by the
number of digits before any arithmetic. -/
def toBinary64 (decimal : Decimal) : Binary64 :=
  let magnitude : Int := (Nat.toDigits 10 decimal.digits).length + decimal.power
  if decimal.digits = 0 ∨ magnitude < -330 then .finite (.zero decimal.negative)
  else if 310 < magnitude then .infinite decimal.negative
  else if 0 ≤ decimal.power then
    .ofFraction decimal.negative (decimal.digits * Nat.pow 10 decimal.power.toNat) 1
  else .ofFraction decimal.negative decimal.digits (Nat.pow 10 (-decimal.power).toNat)

def digitsValue (digits : List Char) : Nat :=
  digits.foldl (fun value digit => value * 10 + (digit.toNat - '0'.toNat)) 0

/-- An exponent part: nothing, or `e` with an optional sign and at least one digit. -/
def exponentPart? : List Char → Option Int
  | [] => some 0
  | mark :: rest =>
    if mark = 'e' ∨ mark = 'E' then
      let (negative, digits) :=
        match rest with
        | '-' :: digits => (true, digits)
        | '+' :: digits => (false, digits)
        | digits => (false, digits)
      if !digits.isEmpty && digits.all Char.isDigit then
        some (if negative then -(digitsValue digits : Int) else digitsValue digits)
      else none
    else none

/-- Digits with at most one point, at least one digit in all, and an optional exponent. -/
def unsigned? (text : List Char) : Option Decimal :=
  let whole := text.takeWhile Char.isDigit
  let (fraction, rest) :=
    match text.dropWhile Char.isDigit with
    | '.' :: rest => (rest.takeWhile Char.isDigit, rest.dropWhile Char.isDigit)
    | rest => ([], rest)
  if whole.isEmpty && fraction.isEmpty then none
  else
    (exponentPart? rest).map fun power =>
      ⟨false, digitsValue (whole ++ fraction), power - fraction.length⟩

def ofChars? : List Char → Option Decimal
  | '-' :: text => (unsigned? text).map ({ · with negative := true })
  | '+' :: text => unsigned? text
  | text => unsigned? text

end Decimal

/-- Which of two equally near decimals is taken. -/
inductive DecimalTie where
  | even
  | away
deriving DecidableEq, Repr

namespace FiniteBinary64

/-- The reals that round to a nonzero double lie between `lower` and `upper`, in units of
`unit / base`; the ends belong to them when the mantissa is even. -/
structure Interval where
  lower : Nat
  value : Nat
  upper : Nat
  closed : Bool
  unit : Nat
  base : Nat

/-- Below a power of two the next double is only half as far away as above it. -/
def interval (value : FiniteBinary64) : Interval :=
  let below := if value.mantissa = 4503599627370496 ∧ -1074 < value.exponent then 1 else 2
  let (unit, base) := Rounding.unscaled 1 1 (2 - value.exponent)
  ⟨4 * value.mantissa - below, 4 * value.mantissa, 4 * value.mantissa + 2,
    value.mantissa % 2 = 0, unit, base⟩

namespace Interval

/-- The grid point `digits · 10 ^ power` on the scale of the interval's bounds, as a fraction. -/
def gridPoint (interval : Interval) (digits : Nat) (power : Int) : Nat × Nat :=
  if 0 ≤ power then (digits * Nat.pow 10 power.toNat * interval.base, interval.unit)
  else (digits * interval.base, interval.unit * Nat.pow 10 (-power).toNat)

def Holds (interval : Interval) (digits : Nat) (power : Int) : Prop :=
  let (above, below) := interval.gridPoint digits power
  if interval.closed then interval.lower * below ≤ above ∧ above ≤ interval.upper * below
  else interval.lower * below < above ∧ above < interval.upper * below

instance (interval : Interval) (digits : Nat) (power : Int) :
    Decidable (interval.Holds digits power) := by
  unfold Holds
  infer_instance

def valueOver (interval : Interval) (power : Int) : Nat × Nat :=
  if 0 ≤ power then (interval.value * interval.unit, interval.base * Nat.pow 10 power.toNat)
  else (interval.value * interval.unit * Nat.pow 10 (-power).toNat, interval.base)

/-- The nearer of the value's two neighbours on the grid of `10 ^ power` that lie in the interval. -/
def nearest? (tie : DecimalTie) (interval : Interval) (power : Int) : Option Nat :=
  let (above, below) := interval.valueOver power
  let floor := above / below
  let rest := above % below
  let up :=
    if 2 * rest < below then false
    else if below < 2 * rest then true
    else match tie with
      | .away => true
      | .even => floor % 2 = 1
  let (first, second) := if up then (floor + 1, floor) else (floor, floor + 1)
  if interval.Holds first power then some first
  else if interval.Holds second power then some second
  else none

/-- The coarsest grid, of those with `power` at most `start`, that has a point in the interval. -/
def coarsest (tie : DecimalTie) (interval : Interval) (start : Int) : Nat → Nat × Int
  | 0 => (interval.nearest? tie start |>.getD 0, start)
  | steps + 1 =>
    match interval.nearest? tie start with
    | some digits => (digits, start)
    | none => interval.coarsest tie (start - 1) steps

end Interval

def leadingPower (value : FiniteBinary64) : Int :=
  ((value.mantissa.log2 + 1 + value.exponent) * 30103 + 99999).fdiv 100000

/-- The decimal with the fewest digits among those that round to the value's magnitude, and of
these the nearest. Seventeen digits always suffice. -/
def shortest (tie : DecimalTie) (value : FiniteBinary64) : Decimal :=
  if value.mantissa = 0 then ⟨value.negative, 0, 0⟩
  else
    let (digits, power) := value.interval.coarsest tie value.leadingPower 20
    ⟨value.negative, digits, power⟩

end FiniteBinary64

end CrdCompiler
