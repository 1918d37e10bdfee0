/-!
Double-precision numbers as exact values. A finite double is plus or minus `mantissa · 2 ^ exponent`
in one canonical form, so equality of the data is equality of the numbers, signed zeros apart, and
every operation is exact arithmetic on integers followed by one rounding to the nearest double, a
tie going to the even mantissa.
-/

namespace CrdCompiler

/-- The mantissa has at most 53 bits, so it is less than 9007199254740992, and, unless the exponent
is the least one, exactly 53. -/
def IsCanonical (mantissa : Nat) (exponent : Int) : Prop :=
  mantissa < 9007199254740992 ∧ -1074 ≤ exponent ∧ exponent ≤ 971 ∧
    (4503599627370496 ≤ mantissa ∨ exponent = -1074)

instance (mantissa : Nat) (exponent : Int) : Decidable (IsCanonical mantissa exponent) :=
  inferInstanceAs (Decidable (_ ∧ _ ∧ _ ∧ _))

structure FiniteBinary64 where
  negative : Bool
  mantissa : Nat
  exponent : Int
  canonical : IsCanonical mantissa exponent
deriving DecidableEq, Repr

inductive Binary64 where
  | nan
  | infinite (negative : Bool)
  | finite (value : FiniteBinary64)
deriving DecidableEq, Repr

namespace Rounding

/-- The quotient as an integer, rounded to the nearest one, a tie to the even one. -/
def quotient (numerator denominator : Nat) : Nat :=
  let whole := numerator / denominator
  let rest := numerator % denominator
  if 2 * rest < denominator then whole
  else if denominator < 2 * rest then whole + 1
  else whole + whole % 2

example : [3, 5, 7, 8].map (quotient · 2) = [2, 2, 4, 4] := by decide

def unscaled (numerator denominator : Nat) (exponent : Int) : Nat × Nat :=
  if 0 ≤ exponent then (numerator, denominator * Nat.pow 2 exponent.toNat)
  else (numerator * Nat.pow 2 (-exponent).toNat, denominator)

/-- The least exponent, not below -1074, at which the positive fraction has fewer than 54 bits
before its point. -/
def exponentFor (numerator denominator : Nat) : Int :=
  let estimate : Int := (numerator.log2 : Int) - denominator.log2
  let (above, below) := unscaled numerator denominator estimate
  max (-1074) (if above < below then estimate - 53 else estimate - 52)

end Rounding

namespace FiniteBinary64

def zero (negative : Bool) : FiniteBinary64 :=
  ⟨negative, 0, -1074, by decide⟩

/-- The signed mantissa of the value written at a smaller exponent. -/
def unitsAt (value : FiniteBinary64) (exponent : Int) : Int :=
  let units : Int := value.mantissa * Nat.pow 2 (value.exponent - exponent).toNat
  if value.negative then -units else units

def toRat (value : FiniteBinary64) : Rat :=
  if 0 ≤ value.exponent then value.unitsAt 0
  else mkRat (value.unitsAt value.exponent) (Nat.pow 2 (-value.exponent).toNat)

def toInt? (value : FiniteBinary64) : Option Int :=
  if 0 ≤ value.exponent then some (value.unitsAt 0)
  else
    let unit := Nat.pow 2 (-value.exponent).toNat
    if value.mantissa % unit = 0 then
      let whole : Int := value.mantissa / unit
      some (if value.negative then -whole else whole)
    else none

def truncate (value : FiniteBinary64) : Int :=
  if 0 ≤ value.exponent then value.unitsAt 0
  else
    let whole : Int := value.mantissa / Nat.pow 2 (-value.exponent).toNat
    if value.negative then -whole else whole

def neg (value : FiniteBinary64) : FiniteBinary64 :=
  { value with negative := !value.negative }

end FiniteBinary64

namespace Binary64

/-- The double nearest a fraction. A magnitude past the largest finite double by half a unit or
more rounds to an infinity. -/
def ofFraction (negative : Bool) (numerator denominator : Nat) : Binary64 :=
  if numerator = 0 then .finite (.zero negative)
  else
    let exponent := Rounding.exponentFor numerator denominator
    let (above, below) := Rounding.unscaled numerator denominator exponent
    let rounded := Rounding.quotient above below
    let (mantissa, exponent) :=
      if rounded = 9007199254740992 then (4503599627370496, exponent + 1) else (rounded, exponent)
    if canonical : IsCanonical mantissa exponent then
      .finite ⟨negative, mantissa, exponent, canonical⟩
    else .infinite negative

def ofScaled (negative : Bool) (magnitude : Nat) (exponent : Int) : Binary64 :=
  let (above, below) := Rounding.unscaled magnitude 1 (-exponent)
  ofFraction negative above below

def ofInt (number : Int) : Binary64 :=
  ofFraction (number < 0) number.natAbs 1

def ofInt64 (word : Int64) : Binary64 :=
  ofInt word.toInt

def zero : Binary64 := .finite (.zero false)

def one : Binary64 := ofInt 1

def neg : Binary64 → Binary64
  | .nan => .nan
  | .infinite negative => .infinite !negative
  | .finite value => .finite value.neg

def addFinite (left right : FiniteBinary64) : Binary64 :=
  let exponent := min left.exponent right.exponent
  let sum := left.unitsAt exponent + right.unitsAt exponent
  if sum = 0 then .finite (.zero (left.negative && right.negative))
  else ofScaled (sum < 0) sum.natAbs exponent

/-- The rounded sum. A sum that vanishes is positive unless both terms are negative. -/
def add : Binary64 → Binary64 → Binary64
  | .nan, _ => .nan
  | _, .nan => .nan
  | .infinite left, .infinite right => if left = right then .infinite left else .nan
  | .infinite left, .finite _ => .infinite left
  | .finite _, .infinite right => .infinite right
  | .finite left, .finite right => addFinite left right

def sub (left right : Binary64) : Binary64 :=
  left.add right.neg

def mulFinite (left right : FiniteBinary64) : Binary64 :=
  ofScaled (left.negative != right.negative) (left.mantissa * right.mantissa)
    (left.exponent + right.exponent)

def divFinite (left right : FiniteBinary64) : Binary64 :=
  let (above, below) :=
    Rounding.unscaled left.mantissa right.mantissa (right.exponent - left.exponent)
  ofFraction (left.negative != right.negative) above below

/-- How two numbers compare, unless one is no number. Zeros are equal whatever their signs. -/
def compare? : Binary64 → Binary64 → Option Ordering
  | .nan, _ => none
  | _, .nan => none
  | .infinite left, .infinite right => some (compare right left)
  | .infinite negative, .finite _ => some (if negative then .lt else .gt)
  | .finite _, .infinite negative => some (if negative then .gt else .lt)
  | .finite left, .finite right =>
    let exponent := min left.exponent right.exponent
    some (compare (left.unitsAt exponent) (right.unitsAt exponent))

def isLess (left right : Binary64) : Bool :=
  left.compare? right = some .lt

def isAtMost (left right : Binary64) : Bool :=
  left.isLess right || left.compare? right = some .eq

/-- The signed word that is left when what is behind the point is dropped. A number beyond the words
becomes the word nearest to it, and what is no number becomes zero. -/
def toInt64 : Binary64 → Int64
  | .nan => 0
  | .infinite negative => if negative then Int64.minValue else Int64.maxValue
  | .finite value =>
    .ofInt (max Int64.minValue.toInt (min value.truncate Int64.maxValue.toInt))

def finite? : Binary64 → Option FiniteBinary64
  | .finite value => some value
  | _ => none

end Binary64

example : Binary64.ofInt 9007199254740993 = Binary64.ofInt 9007199254740992 := by decide
example : (Binary64.ofInt 3).add (Binary64.ofInt (-3)) = .zero := by decide
example : Binary64.ofFraction false 1 3 = .finite ⟨false, 6004799503160661, -54, by decide⟩ := by
  decide

end CrdCompiler
