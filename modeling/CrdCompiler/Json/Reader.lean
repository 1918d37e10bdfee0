import CrdCompiler.Content

/-!
Reading JSON text. Objects keep the order of their members. By default a number without point and
exponent that fits 64 bits is an integer; any other is a double, namely its leading digits as a
double times or divided by a power of ten, each step rounded, so that a number of many digits can be
read one double away from the nearest.
-/

namespace CrdCompiler.Json

def isSpace (character : Char) : Bool :=
  character = ' ' || character = '\t' || character = '\n' || character = '\r'

def skipSpace (text : List Char) : List Char :=
  text.dropWhile isSpace

/-- The digits of a number as one 64-bit word. Digits that no longer fit are dropped and counted. -/
structure Significand where
  value : Nat
  dropped : Nat

namespace Significand

def extended (value : Nat) (digit : Char) : Nat :=
  value * 10 + (digit.toNat - '0'.toNat)

/-- Digits before the point: from the first that does not fit on, all are dropped. -/
def whole (significand : Significand) : List Char → Significand
  | [] => significand
  | digit :: rest =>
    if extended significand.value digit < 18446744073709551616 then
      { significand with value := extended significand.value digit }.whole rest
    else { significand with dropped := significand.dropped + rest.length + 1 }

/-- Digits after the point, with the number of those that were taken. -/
def fraction (significand : Significand) (taken : Nat) : List Char → Significand × Nat
  | [] => (significand, taken)
  | digit :: rest =>
    if extended significand.value digit < 18446744073709551616 then
      { significand with value := extended significand.value digit }.fraction (taken + 1) rest
    else (significand, taken)

end Significand

private def greatestPower : Nat := 308

private def powerOfTen (power : Nat) : Binary64 :=
  .ofFraction false (Nat.pow 10 power) 1

private def scaledDown (value : FiniteBinary64) (power : Nat) : Binary64 :=
  match powerOfTen power with
  | .finite divisor => .divFinite value divisor
  | _ => .zero

/-- A significand times a power of ten, each step rounded. Nothing when the result is too large. -/
def scaled? (significand : Nat) (power : Int) : Option FiniteBinary64 := do
  let value ← (Binary64.ofInt significand).finite?
  if 0 ≤ power then
    if power.toNat ≤ greatestPower then
      (Binary64.mulFinite value (← (powerOfTen power.toNat).finite?)).finite?
    else if significand = 0 then some value
    else none
  else
    let places := (-power).toNat
    if places ≤ greatestPower then (scaledDown value places).finite?
    else if places ≤ 2 * greatestPower then
      (scaledDown (← (scaledDown value greatestPower).finite?) (places - greatestPower)).finite?
    else some (.zero false)

def negated (negative : Bool) (value : FiniteBinary64) : FiniteBinary64 :=
  if negative then value.neg else value

structure NumberParts where
  negative : Bool
  whole : List Char
  fraction : Option (List Char)
  exponent : Option Int

def readMinus : List Char → Bool × List Char
  | '-' :: text => (true, text)
  | text => (false, text)

def readSign : List Char → Bool × List Char
  | '-' :: text => (true, text)
  | '+' :: text => (false, text)
  | text => (false, text)

def readDigits? (text : List Char) : Option (List Char × List Char) :=
  let digits := text.takeWhile Char.isDigit
  if digits.isEmpty then none else some (digits, text.dropWhile Char.isDigit)

/-- No zero stands before other digits. -/
def readWhole? (text : List Char) : Option (List Char × List Char) :=
  (readDigits? text).filter fun (digits, _) => digits.length = 1 || digits.head? ≠ some '0'

def readFraction? : List Char → Option (Option (List Char) × List Char)
  | '.' :: text => (readDigits? text).map fun (digits, rest) => (some digits, rest)
  | text => some (none, text)

def readExponent? : List Char → Option (Option Int × List Char)
  | [] => some (none, [])
  | mark :: text =>
    if mark = 'e' ∨ mark = 'E' then
      let (down, text) := readSign text
      (readDigits? text).map fun (digits, rest) =>
        let size : Int := Decimal.digitsValue digits
        (some (if down then -size else size), rest)
    else some (none, mark :: text)

def readParts? (text : List Char) : Option (NumberParts × List Char) := do
  let (negative, text) := readMinus text
  let (whole, text) ← readWhole? text
  let (fraction, text) ← readFraction? text
  let (exponent, rest) ← readExponent? text
  return (⟨negative, whole, fraction, exponent⟩, rest)

def NumberParts.content? (parts : NumberParts) : Option Content := do
  let whole := (Significand.mk 0 0).whole parts.whole
  if parts.fraction.isSome || parts.exponent.isSome || whole.dropped ≠ 0 then
    let (significand, taken) := whole.fraction 0 (parts.fraction.getD [])
    let power := parts.exponent.getD 0 + significand.dropped - taken
    return .float (.finite (negated parts.negative (← scaled? significand.value power)))
  else if parts.negative ∧ (whole.value = 0 ∨ 9223372036854775808 < whole.value) then
    return .float (.finite (← (Binary64.ofInt whole.value).finite?).neg)
  else
    let value : Int := if parts.negative then -(whole.value : Int) else whole.value
    return .integer (← Integer64.ofInt? value)

def readNumber (numberOf? : NumberParts → Option Content) (text : List Char) :
    Option (Content × List Char) := do
  let (parts, rest) ← readParts? text
  return (← numberOf? parts, rest)

def hexDigit? (digit : Char) : Option Nat :=
  if digit.isDigit then some (digit.toNat - '0'.toNat)
  else if 'a' ≤ digit ∧ digit ≤ 'f' then some (digit.toNat - 'a'.toNat + 10)
  else if 'A' ≤ digit ∧ digit ≤ 'F' then some (digit.toNat - 'A'.toNat + 10)
  else none

def codeUnit? (text : List Char) : Option (Nat × List Char) :=
  match text with
  | a :: b :: c :: d :: rest => do
    return ((((← hexDigit? a) * 16 + (← hexDigit? b)) * 16 + (← hexDigit? c)) * 16 + (← hexDigit? d),
      rest)
  | _ => none

def escapedUnits? (text : List Char) : Option (Char × List Char) := do
  let (first, rest) ← codeUnit? text
  if 0xD800 ≤ first ∧ first < 0xDC00 then
    match rest with
    | '\\' :: 'u' :: rest =>
      let (second, rest) ← codeUnit? rest
      if 0xDC00 ≤ second ∧ second < 0xE000 then
        return (Char.ofNat (0x10000 + (first - 0xD800) * 0x400 + (second - 0xDC00)), rest)
      else none
    | _ => none
  else if 0xDC00 ≤ first ∧ first < 0xE000 then none
  else return (Char.ofNat first, rest)

def escape? (text : List Char) : Option (Char × List Char) :=
  match text with
  | '"' :: rest => some ('"', rest)
  | '\\' :: rest => some ('\\', rest)
  | '/' :: rest => some ('/', rest)
  | 'b' :: rest => some ('\x08', rest)
  | 'f' :: rest => some ('\x0c', rest)
  | 'n' :: rest => some ('\n', rest)
  | 'r' :: rest => some ('\r', rest)
  | 't' :: rest => some ('\t', rest)
  | 'u' :: rest => escapedUnits? rest
  | _ => none

def stringRest (fuel : Nat) (read : List Char) (text : List Char) :
    Option (String × List Char) :=
  match fuel, text with
  | _, '"' :: rest => some (String.ofList read.reverse, rest)
  | fuel + 1, '\\' :: rest => do
    let (character, rest) ← escape? rest
    stringRest fuel (character :: read) rest
  | fuel + 1, character :: rest =>
    if character.toNat < 0x20 then none else stringRest fuel (character :: read) rest
  | _, _ => none

def readString (text : List Char) : Option (String × List Char) :=
  match text with
  | '"' :: rest => stringRest rest.length [] rest
  | _ => none

def readWord? : List Char → Option (Content × List Char)
  | 'n' :: 'u' :: 'l' :: 'l' :: rest => some (.null, rest)
  | 't' :: 'r' :: 'u' :: 'e' :: rest => some (.bool true, rest)
  | 'f' :: 'a' :: 'l' :: 's' :: 'e' :: rest => some (.bool false, rest)
  | _ => none

mutual

/-- A value at the start of the text, with the text after it. A character is behind every second
call, so twice as much fuel as there are characters is enough. -/
def readValue (numberOf? : NumberParts → Option Content) (fuel : Nat) (text : List Char) :
    Option (Content × List Char) :=
  match fuel, skipSpace text with
  | 0, _ => none
  | _, '"' :: rest => (readString ('"' :: rest)).map fun (text, rest) => (.text text, rest)
  | fuel + 1, '[' :: rest =>
    match skipSpace rest with
    | ']' :: rest => some (.sequence [], rest)
    | rest => readItems numberOf? fuel [] rest
  | fuel + 1, '\x7b' :: rest =>
    match skipSpace rest with
    | '\x7d' :: rest => some (.mapping [], rest)
    | rest => readMembers numberOf? fuel [] rest
  | _, text => (readWord? text).or (readNumber numberOf? text)

def readItems (numberOf? : NumberParts → Option Content) (fuel : Nat) (items : List Content)
    (text : List Char) : Option (Content × List Char) :=
  match fuel with
  | 0 => none
  | fuel + 1 => do
    let (item, rest) ← readValue numberOf? fuel text
    match skipSpace rest with
    | ',' :: rest => readItems numberOf? fuel (item :: items) rest
    | ']' :: rest => return (.sequence (item :: items).reverse, rest)
    | _ => none

def readMembers (numberOf? : NumberParts → Option Content) (fuel : Nat)
    (entries : List (ContentKey × Content)) (text : List Char) : Option (Content × List Char) :=
  match fuel with
  | 0 => none
  | fuel + 1 => do
    let (name, rest) ← readString (skipSpace text)
    match skipSpace rest with
    | ':' :: rest =>
      let (value, rest) ← readValue numberOf? fuel rest
      let entries := (.name name, value) :: entries
      match skipSpace rest with
      | ',' :: rest => readMembers numberOf? fuel entries rest
      | '\x7d' :: rest => return (.mapping entries.reverse, rest)
      | _ => none
    | _ => none

end

/-- A whole text as one value; numbers are left to the reader given. -/
def parseWith? (numberOf? : NumberParts → Option Content) (text : String) : Option Content := do
  let characters := text.toList
  let (value, rest) ← readValue numberOf? (2 * characters.length + 1) characters
  if (skipSpace rest).isEmpty then some value else none

def parse? (text : String) : Option Content :=
  parseWith? NumberParts.content? text

end CrdCompiler.Json
