import CrdCompiler.Json.Value
import CrdCompiler.Text.Quoted

/-!
Scalar kinds and literals: the leaves of a property tree and the values that stand in defaults,
enumerations and bounds.
-/

namespace CrdCompiler

inductive ScalarKind where
  | string
  | int64
  | float64
  | bool
deriving DecidableEq, Repr

namespace ScalarKind

def all : List ScalarKind := [.string, .int64, .float64, .bool]

def name : ScalarKind → String
  | .string => "string"
  | .int64 => "int64"
  | .float64 => "float64"
  | .bool => "bool"

def ofName? (name : String) : Option ScalarKind :=
  all.find? (·.name = name)

/-- The `type` keyword of a schema node of this kind. -/
def schemaType : ScalarKind → String
  | .string => "string"
  | .int64 => "integer"
  | .float64 => "number"
  | .bool => "boolean"

def ofSchemaType? (schemaType : String) : Option ScalarKind :=
  all.find? (·.schemaType = schemaType)

end ScalarKind

inductive Literal where
  | string (text : String)
  | int64 (number : Int64)
  | float64 (number : Binary64)
  | bool (value : Bool)
deriving DecidableEq, Repr

namespace Literal

def kind : Literal → ScalarKind
  | .string _ => .string
  | .int64 _ => .int64
  | .float64 _ => .float64
  | .bool _ => .bool

def text : Literal → String
  | .string value => Text.quoted value
  | .int64 value => toString value.toInt
  | .float64 value => NumberLayout.plain.text value
  | .bool value => if value then "true" else "false"

def toRaw : Literal → Json
  | .string value => .string value
  | .int64 value => .number (.integer (.ofInt64 value))
  | .float64 value => .ofBinary64 value
  | .bool value => .bool value

/-- The literal of a kind that a raw value denotes. Integers are exact: a number written as a double
is no integer. A double accepts every number. -/
def ofRaw? : ScalarKind → Json → Option Literal
  | .string, .string text => some (.string text)
  | .int64, .number number => number.toInt64?.map .int64
  | .float64, .number number => some (.float64 number.toBinary64)
  | .bool, .bool value => some (.bool value)
  | _, _ => none

end Literal

end CrdCompiler
