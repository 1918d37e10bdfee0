import CrdCompiler.Text.CharacterClass

/-!
Descriptions and patterns as they go into generated source.
-/

namespace CrdCompiler

namespace Description

/-- Line breaks and backslashes go; back quotes and double quotes become single quotes. -/
def clean (raw : String) : String :=
  String.ofList ((raw.toList.filter fun character =>
    character != '\n' && character != '\r' && character != '\\').map fun character =>
      if character = '`' ∨ character = '"' then '\'' else character)

def immutableMarker : String := "(immutable)"

def withoutPrefix? : List Char → List Char → Option (List Char)
  | [], text => some text
  | expected :: rest, character :: text =>
    if expected = character then withoutPrefix? rest text else none
  | _ :: _, [] => none

/-- The text without the mark at its start, and whether it had one. Blanks around it go. -/
def splitImmutable (text : String) : String × Bool :=
  match withoutPrefix? immutableMarker.toList text.toList with
  | some rest => (Text.trim (String.ofList rest), true)
  | none => (Text.trim text, false)

end Description

namespace Pattern

def quotedBackQuote : String := "\"`\""

def pieces : List (List Char) → List String
  | [] => []
  | [last] => piece last
  | segment :: rest => piece segment ++ quotedBackQuote :: pieces rest
where
  piece (segment : List Char) : List String :=
    if segment.isEmpty then [] else ["`" ++ String.ofList segment ++ "`"]

/-- The pattern as a source literal between back quotes. A back quote cannot stand inside such a
literal, so each is spliced in between double quotes. -/
def literal (pattern : String) : String :=
  let segments := pattern.toList.splitOn '`'
  match segments with
  | [segment] => "`" ++ String.ofList segment ++ "`"
  | _ => String.intercalate "+" (pieces segments)

end Pattern

end CrdCompiler
