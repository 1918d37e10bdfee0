import CrdCompiler.Json.Value

/-!
Untyped content: what a text says before anyone asks for a particular type. Integers and doubles are
apart, mappings keep their order and their repeated keys, and a key that is not a text is remembered
only as far as a reader can tell it from a text.
-/

namespace CrdCompiler

/-- A mapping key: a text, the position of a field, or something that names no field. -/
inductive ContentKey where
  | name (text : String)
  | position (index : Nat)
  | other
deriving DecidableEq, Repr

inductive Content where
  | null
  | bool (value : Bool)
  | integer (number : Integer64)
  /-- A zero with a minus sign. As a value it is zero, but as a key it is no position. -/
  | minusZero
  | float (value : Binary64)
  | text (text : String)
  | sequence (items : List Content)
  | mapping (entries : List (ContentKey × Content))
deriving Repr

namespace Content

def toKey : Content → ContentKey
  | .text name => .name name
  | .integer index => if 0 ≤ index.value then .position index.value.toNat else .other
  | _ => .other

mutual

/-- The content as a JSON value with ascending member names. Only texts name members, and of a
repeated name the last value stays. -/
def toJson? : Content → Option Json
  | .null => some .null
  | .bool value => some (.bool value)
  | .integer value => some (.number (.integer value))
  | .minusZero => some (.number (.integer ⟨0, by decide⟩))
  | .float value => some (.ofBinary64 value)
  | .text value => some (.string value)
  | .sequence items => Json.array <$> itemsToJson? items
  | .mapping entries => Json.object <$> entriesToJson? [] entries

def itemsToJson? : List Content → Option (List Json)
  | [] => some []
  | item :: rest => do
    let value ← item.toJson?
    return value :: (← itemsToJson? rest)

def entriesToJson? (members : List (String × Json)) :
    List (ContentKey × Content) → Option (List (String × Json))
  | [] => some members
  | (.name name, content) :: rest => do
    let value ← content.toJson?
    entriesToJson? (Json.insertMember name value members) rest
  | (_, _) :: _ => none

end

mutual

def ofJson : Json → Content
  | .null => .null
  | .bool value => .bool value
  | .number (.integer value) => .integer value
  | .number (.float value) => .float (.finite value)
  | .string value => .text value
  | .array items => .sequence (itemsOfJson items)
  | .object members => .mapping (entriesOfJson members)

def itemsOfJson : List Json → List Content
  | [] => []
  | item :: rest => ofJson item :: itemsOfJson rest

def entriesOfJson : List (String × Json) → List (ContentKey × Content)
  | [] => []
  | (name, value) :: rest => (.name name, ofJson value) :: entriesOfJson rest

end

mutual

def depth : Content → Nat
  | .sequence items => itemsDepth items + 1
  | .mapping entries => entriesDepth entries + 1
  | _ => 0

def itemsDepth : List Content → Nat
  | [] => 0
  | item :: rest => max item.depth (itemsDepth rest)

def entriesDepth : List (ContentKey × Content) → Nat
  | [] => 0
  | (_, content) :: rest => max content.depth (entriesDepth rest)

end

end Content

end CrdCompiler
