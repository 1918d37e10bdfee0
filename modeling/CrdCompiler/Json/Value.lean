import CrdCompiler.Number.Integer64
import CrdCompiler.Number.Layout

/-!
JSON values. A number is an integer of 64 bits or a finite double, and the two are never mixed up;
the members of an object keep the order in which they are given.
-/

namespace CrdCompiler

inductive JsonNumber where
  | integer (number : Integer64)
  | float (value : FiniteBinary64)
deriving DecidableEq, Repr

namespace JsonNumber

def toInt64? : JsonNumber → Option Int64
  | .integer number => number.toInt64?
  | .float _ => none

def toBinary64 : JsonNumber → Binary64
  | .integer number => .ofInt number.value
  | .float value => .finite value

def text : JsonNumber → String
  | .integer number => toString number.value
  | .float value => NumberLayout.json.finiteText value

end JsonNumber

inductive Json where
  | null
  | bool (value : Bool)
  | number (value : JsonNumber)
  | string (text : String)
  | array (items : List Json)
  | object (members : List (String × Json))
deriving Repr

namespace Json

instance : Inhabited Json := ⟨.null⟩

def ofNat (number : Nat) : Json :=
  match Integer64.ofInt? number with
  | some number => .number (.integer number)
  | none => .null

/-- A number that is not finite has no JSON form and becomes null. -/
def ofBinary64 : Binary64 → Json
  | .finite value => .number (.float value)
  | _ => .null

def ofOption (toJson : α → Json) : Option α → Json
  | none => .null
  | some value => toJson value

/-- The members with a name put in its place: ascending names, and a later value for a name
replaces an earlier one. -/
def insertMember (name : String) (value : Json) : List (String × Json) → List (String × Json)
  | [] => [(name, value)]
  | (first, held) :: rest =>
    if name < first then (name, value) :: (first, held) :: rest
    else if name = first then (name, value) :: rest
    else (first, held) :: insertMember name value rest

end Json

end CrdCompiler
