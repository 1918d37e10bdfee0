import CrdCompiler.CompileError
import CrdCompiler.Constraint
import CrdCompiler.Description
import CrdCompiler.Schema.Node

/-!
What a property is apart from its shape: its description, whether it may change, its default and
its validation rules. Rules come in a fixed order: the enumeration, then for texts the lengths, the
pattern and the format, for numbers the minimum and the maximum.
-/

namespace CrdCompiler

/-- The schema of all values of a node, if it has one. Values of any type have no shape. -/
def SchemaNode.valueSchema? (node : SchemaNode) (path : SchemaPath) :
    Except CompileError (Option SchemaNode) :=
  match node.additionalProperties with
  | .absent => .ok none
  | .flag false => .ok none
  | .flag true => .error (.shape path .untypedValues)
  | .schema values => .ok (some values)

structure Metadata where
  description : String
  immutable : Bool
  required : Bool
  default : Option Literal
  validators : List Constraint
deriving Repr

namespace Metadata

/-- The literal of a kind that a raw value denotes; `what` names the value's role. -/
def decode (raw : Json) (kind : ScalarKind) (path : SchemaPath) (what : String) :
    Except CompileError Literal :=
  match Literal.ofRaw? kind raw with
  | some literal => .ok literal
  | none => .error (.value path (.undecodable what raw kind))

def decodeAll (kind : ScalarKind) (path : SchemaPath) (what : String) :
    List Json → Except CompileError (List Literal)
  | [] => .ok []
  | raw :: rest => do
    let literal ← decode raw kind path what
    return literal :: (← decodeAll kind path what rest)

def defaultOf (node : SchemaNode) (kind : ScalarKind) (path : SchemaPath) :
    Except CompileError (Option Literal) :=
  match node.default with
  | none => .ok none
  | some raw => some <$> decode raw kind path "default"

/-- A bound as a literal: finite, and for integers an integer of 64 bits. The double nearest the
greatest word is `2 ^ 63`, which is out of range itself. -/
def bound (value : Binary64) (kind : ScalarKind) (path : SchemaPath) (side : BoundSide) :
    Except CompileError Literal :=
  match value with
  | .finite number =>
    if kind = .float64 then .ok (.float64 value)
    else if number.toInt?.isNone || value.isLess (.ofInt64 Int64.minValue) ||
        (Binary64.ofInt64 Int64.maxValue).isAtMost value then
      .error (.value path (.notInt64 side value))
    else .ok (.int64 value.toInt64)
  | _ => .error (.value path (.notFinite side value))

def shift (exclusive : Bool) : Binary64 :=
  if exclusive then .one else .zero

def enumRules (node : SchemaNode) (kind : ScalarKind) (path : SchemaPath) :
    Except CompileError (List Constraint) :=
  if node.enum.isEmpty then .ok []
  else (fun values => [.oneOf values]) <$> decodeAll kind path "enum value" node.enum

def textRules (node : SchemaNode) : List Constraint :=
  (node.minLength.map Constraint.lengthAtLeast).toList ++
    (node.maxLength.map Constraint.lengthAtMost).toList ++
    ((node.pattern.filter (· ≠ "")).map fun pattern =>
      Constraint.regexMatches pattern (Pattern.literal pattern)).toList ++
    (if node.format = some "byte" then [.base64]
      else if node.format = some "date-time" then [.dateTime]
      else [])

/-- The rules of a number: an exclusive bound becomes the inclusive one next to it. -/
def numberRules (node : SchemaNode) (kind : ScalarKind) (path : SchemaPath) :
    Except CompileError (List Constraint) := do
  let least ←
    match node.minimum with
    | none => .ok []
    | some minimum => do
      let literal ← bound (minimum.add (shift node.exclusiveMinimum)) kind path .minimum
      .ok [Constraint.atLeast literal]
  let greatest ←
    match node.maximum with
    | none => .ok []
    | some maximum => do
      let literal ← bound (maximum.sub (shift node.exclusiveMaximum)) kind path .maximum
      .ok [Constraint.atMost literal]
  .ok (least ++ greatest)

def kindRules (node : SchemaNode) (kind : ScalarKind) (path : SchemaPath) :
    Except CompileError (List Constraint) :=
  match kind with
  | .string => .ok (textRules node)
  | .int64 => numberRules node kind path
  | .float64 => numberRules node kind path
  | .bool => .ok []

def validatorsOf (node : SchemaNode) (kind : ScalarKind) (path : SchemaPath) :
    Except CompileError (List Constraint) := do
  let allowed ← enumRules node kind path
  return allowed ++ (← kindRules node kind path)

/-- The metadata of a property. Only scalars have a default and rules. -/
def derive (node : SchemaNode) (required : Bool) (kind? : Option ScalarKind) (path : SchemaPath) :
    Except CompileError Metadata := do
  let (description, immutable) :=
    Description.splitImmutable (Description.clean (node.description.getD ""))
  match kind? with
  | none => return ⟨description, immutable, required, none, []⟩
  | some kind =>
    let default ← defaultOf node kind path
    let validators ← validatorsOf node kind path
    return ⟨description, immutable, required, default, validators⟩

end Metadata

end CrdCompiler
