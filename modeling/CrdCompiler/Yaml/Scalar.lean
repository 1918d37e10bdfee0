import CrdCompiler.Content
import CrdCompiler.Yaml.Node

/-!
What a scalar says. Words, integers and doubles have fixed spellings; any other text is a text. A
tag decides over the spelling.
-/

namespace CrdCompiler.Yaml.Scalar

def nullTag : String := "tag:yaml.org,2002:null"
def flagTag : String := "tag:yaml.org,2002:bool"
def integerTag : String := "tag:yaml.org,2002:int"
def numberTag : String := "tag:yaml.org,2002:float"

def isNull (text : String) : Bool :=
  ["null", "Null", "NULL", "~"].contains text

def flag? (text : String) : Option Bool :=
  if ["true", "True", "TRUE"].contains text then some true
  else if ["false", "False", "FALSE"].contains text then some false
  else none

def digit? (base : Nat) (digit : Char) : Option Nat :=
  let value :=
    if digit.isDigit then some (digit.toNat - '0'.toNat)
    else if 'a' ≤ digit ∧ digit ≤ 'z' then some (digit.toNat - 'a'.toNat + 10)
    else if 'A' ≤ digit ∧ digit ≤ 'Z' then some (digit.toNat - 'A'.toNat + 10)
    else none
  value.filter (· < base)

def digits? (base : Nat) (digits : List Char) : Option Nat :=
  if digits.isEmpty then none
  else digits.foldlM (fun value digit => (value * base + ·) <$> digit? base digit) 0

def hasLeadingZero (text : List Char) : Bool :=
  let digits :=
    match text with
    | '-' :: digits => digits
    | '+' :: digits => digits
    | digits => digits
  1 < digits.length && digits.head? = some '0' && digits.all Char.isDigit

def magnitude? : List Char → Option Nat
  | '0' :: 'x' :: digits => digits? 16 digits
  | '0' :: 'o' :: digits => digits? 8 digits
  | '0' :: 'b' :: digits => digits? 2 digits
  | digits => if hasLeadingZero digits then none else digits? 10 digits

def integer? (text : String) : Option Int :=
  match text.toList with
  | '-' :: digits => (magnitude? digits).map fun value : Nat => -(value : Int)
  | '+' :: digits => (magnitude? digits).map Int.ofNat
  | digits => (magnitude? digits).map Int.ofNat

/-- An integer that is not written with a minus sign. -/
def unsigned? (text : String) : Option UInt64 := do
  if text.toList.head? = some '-' then none
  (← Integer64.ofInt? (← integer? text)).toUInt64?

/-- A double: decimal notation within the range of doubles, or a word for what is not finite. -/
def number? (text : String) : Option Binary64 :=
  if [".inf", ".Inf", ".INF", "+.inf", "+.Inf", "+.INF"].contains text then some (.infinite false)
  else if ["-.inf", "-.Inf", "-.INF"].contains text then some (.infinite true)
  else if [".nan", ".NaN", ".NAN"].contains text then some .nan
  else do
    let decimal ← Decimal.ofChars? text.toList
    match decimal.toBinary64 with
    | .finite value => some (.finite value)
    | _ => none

def fitsTwoWords (value : Int) : Bool :=
  -(Nat.pow 2 127 : Nat) ≤ value && value < (Nat.pow 2 128 : Nat)

/-- Content keeps the minus sign of a zero. -/
def signedContent (text : String) (number : Integer64) : Content :=
  if number.value = 0 ∧ text.toList.head? = some '-' then .minusZero else .integer number

/-- What an integer says: one of more than 64 bits has no content if it has at most 128, and else
counts as no integer at all. -/
def integerContent? (text : String) : Option (Option Content) :=
  match integer? text with
  | none => none
  | some value =>
    match Integer64.ofInt? value with
    | some number => some (some (signedContent text number))
    | none => if fitsTwoWords value then some none else none

def plainContent? (text : String) : Option Content :=
  if text.isEmpty || isNull text then some .null
  else
    match flag? text with
    | some value => some (.bool value)
    | none =>
      match integerContent? text with
      | some content => content
      | none =>
        if hasLeadingZero text.toList then some (.text text)
        else
          match number? text with
          | some value => some (.float value)
          | none => some (.text text)

def isLocal (tag : Option String) : Bool :=
  (tag.bind (·.toList.head?)) = some '!'

/-- What a scalar says. One with a tag of the document's own says nothing. -/
def content? (tag : Option String) (style : ScalarStyle) (text : String) : Option Content :=
  match tag with
  | none => if style = .plain then plainContent? text else some (.text text)
  | some name =>
    if isLocal tag then none
    else if name = flagTag then (flag? text).map .bool
    else if name = integerTag then (integerContent? text).join
    else if name = numberTag then (number? text).map .float
    else if name = nullTag then if isNull text then some .null else none
    else some (.text text)

/-- A typed scalar is plain, or else a literal block with the tag of its type. -/
def mayBe (expected : String) (tag : Option String) (style : ScalarStyle) : Bool :=
  style = .plain || (style = .literal && tag = some expected)

end CrdCompiler.Yaml.Scalar
