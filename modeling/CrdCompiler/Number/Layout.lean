import CrdCompiler.Number.Decimal

/-!
How a double is written: where positional notation ends, whether a whole number keeps a zero after
its point, and how a tie between two shortest decimals is settled. One record per notation.
-/

namespace CrdCompiler

/-- A notation for doubles. `positional` bounds the place of the decimal point, counted from the
first digit, within which no exponent is written. -/
structure NumberLayout where
  tie : DecimalTie
  positional : Option (Int × Int)
  pointZero : Bool
deriving Repr

namespace NumberLayout

/-- Positional from 1e-5 up to but not including 1e16, always with a point or an exponent. -/
def json : NumberLayout := ⟨.even, some (-4, 16), true⟩

/-- Never an exponent, and no point after a whole number. -/
def plain : NumberLayout := ⟨.away, none, false⟩

def zeros (count : Nat) : String :=
  "".pushn '0' count

/-- Digits with the point after the first `place` of them. -/
def positionalText (layout : NumberLayout) (digits : List Char) (place : Int) : String :=
  if place ≤ 0 then "0." ++ zeros (-place).toNat ++ String.ofList digits
  else
    let before := place.toNat
    if digits.length ≤ before then
      String.ofList digits ++ zeros (before - digits.length) ++
        (if layout.pointZero then ".0" else "")
    else String.ofList (digits.take before) ++ "." ++ String.ofList (digits.drop before)

/-- One digit, the others after a point, and the exponent with its sign. -/
def exponentText (digits : List Char) (place : Int) : String :=
  let fraction := if digits.length ≤ 1 then "" else "." ++ String.ofList (digits.drop 1)
  let sign := if 1 ≤ place then "+" else "-"
  String.ofList (digits.take 1) ++ fraction ++ "e" ++ sign ++ toString (place - 1).natAbs

def finiteText (layout : NumberLayout) (value : FiniteBinary64) : String :=
  let decimal := value.shortest layout.tie
  let digits := Nat.toDigits 10 decimal.digits
  let place : Int := digits.length + decimal.power
  let sign := if value.negative then "-" else ""
  let positional :=
    match layout.positional with
    | none => true
    | some (least, greatest) => least ≤ place && place ≤ greatest
  sign ++ (if positional then layout.positionalText digits place else exponentText digits place)

def text (layout : NumberLayout) : Binary64 → String
  | .nan => "NaN"
  | .infinite negative => if negative then "-inf" else "inf"
  | .finite value => layout.finiteText value

end NumberLayout

end CrdCompiler
