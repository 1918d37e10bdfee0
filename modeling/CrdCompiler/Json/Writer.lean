import CrdCompiler.Json.Value
import CrdCompiler.Text.Quoted

/-!
JSON text: on one line without blanks, or indented by two spaces a level.
-/

namespace CrdCompiler.Json

/-- Only the quote, the backslash and the control characters below the space are escaped. -/
def escapedCharacter (character : Char) : String :=
  match character with
  | '"' => "\\\""
  | '\\' => "\\\\"
  | '\x08' => "\\b"
  | '\t' => "\\t"
  | '\n' => "\\n"
  | '\x0c' => "\\f"
  | '\r' => "\\r"
  | _ =>
    if character.toNat < 0x20 then
      let digits := Text.hexadecimal character.toNat
      "\\u" ++ "".pushn '0' (4 - digits.length) ++ digits
    else character.toString

def stringText (text : String) : String :=
  "\"" ++ String.join (text.toList.map escapedCharacter) ++ "\""

mutual

def compact : Json → String
  | .null => "null"
  | .bool value => if value then "true" else "false"
  | .number value => value.text
  | .string value => stringText value
  | .array items => "[" ++ String.intercalate "," (compactItems items) ++ "]"
  | .object members => "\x7b" ++ String.intercalate "," (compactMembers members) ++ "\x7d"

def compactItems : List Json → List String
  | [] => []
  | item :: rest => compact item :: compactItems rest

def compactMembers : List (String × Json) → List String
  | [] => []
  | (name, value) :: rest => (stringText name ++ ":" ++ compact value) :: compactMembers rest

end

/-- The lines of a nonempty collection between its brackets, one level deeper than the brackets. -/
def block (opening closing indent : String) (lines : List String) : String :=
  if lines.isEmpty then opening ++ closing
  else
    let inner := indent ++ "  "
    opening ++ "\n" ++ String.intercalate ",\n" (lines.map (inner ++ ·)) ++ "\n" ++ indent ++ closing

mutual

def pretty (indent : String) : Json → String
  | .array items => block "[" "]" indent (prettyItems (indent ++ "  ") items)
  | .object members => block "\x7b" "\x7d" indent (prettyMembers (indent ++ "  ") members)
  | .null => "null"
  | .bool value => if value then "true" else "false"
  | .number value => value.text
  | .string value => stringText value

def prettyItems (indent : String) : List Json → List String
  | [] => []
  | item :: rest => pretty indent item :: prettyItems indent rest

def prettyMembers (indent : String) : List (String × Json) → List String
  | [] => []
  | (name, value) :: rest =>
    (stringText name ++ ": " ++ pretty indent value) :: prettyMembers indent rest

end

end CrdCompiler.Json
