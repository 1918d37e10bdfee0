import CrdCompiler.Yaml.QuotedScalar
import CrdCompiler.Yaml.Token

/-!
Tokens that are names: anchors and aliases, tags, and the directives before a document.
-/

namespace CrdCompiler.Yaml.Name

/-- The name of an anchor or an alias after its mark. A blank or one of a few marks ends it. -/
def anchor? (cursor : Cursor) : Option (String × Cursor) :=
  let (name, next) := (cursor.advance 1).takeWhile isNameCharacter
  let ends := next.endsWordAt 0 || next.looksAt 0 fun character =>
    ['?', ':', ',', ']', '\x7d', '%', '@', '\x60'].contains character
  if name.isEmpty || !ends then none else some (String.ofList name, next)

/-- The bytes of one percent-encoded character, the first of which tells how many follow. -/
def encodedByte? (cursor : Cursor) : Option (Nat × Cursor) := do
  match cursor.rest with
  | '%' :: high :: low :: _ => return (← hexValue? [high, low], cursor.advance 3)
  | _ => none

def trailingBytes? : Nat → Nat → Cursor → Option (Nat × Cursor)
  | 0, code, cursor => some (code, cursor)
  | count + 1, code, cursor => do
    let (byte, next) ← encodedByte? cursor
    if byte / 64 = 2 then trailingBytes? count (code * 64 + byte % 64) next else none

def encoded? (cursor : Cursor) : Option (Char × Cursor) := do
  let (byte, next) ← encodedByte? cursor
  let (count, bits) ←
    if byte < 128 then some (0, byte)
    else if byte / 32 = 6 then some (1, byte % 32)
    else if byte / 16 = 14 then some (2, byte % 16)
    else if byte / 8 = 30 then some (3, byte % 8)
    else none
  let (code, next) ← trailingBytes? count bits next
  return (Char.ofNat code, next)

def isTagCharacter (verbatim : Bool) (character : Char) : Bool :=
  isNameCharacter character || ";/?:@&=+$.%!~*'()".toList.contains character ||
    (verbatim && ",[]".toList.contains character)

def tagText? (verbatim : Bool) : Nat → List Char → Cursor → Option (List Char × Cursor)
  | 0, read, cursor => some (read, cursor)
  | fuel + 1, read, cursor =>
    match cursor.rest with
    | [] => some (read, cursor)
    | character :: _ =>
      if character = '%' then do
        let (decoded, next) ← encoded? cursor
        tagText? verbatim fuel (decoded :: read) next
      else if isTagCharacter verbatim character then
        tagText? verbatim fuel (character :: read) (cursor.advance 1)
      else some (read, cursor)

/-- The rest of a tag after what was taken for its handle, which counts as the tag's beginning but
for its first mark. Without such a beginning there has to be a rest. -/
def tagSuffix? (verbatim : Bool) (beginning : Option (List Char)) (cursor : Cursor) :
    Option (String × Cursor) := do
  let (read, next) ← tagText? verbatim cursor.rest.length [] cursor
  if beginning.isNone && read.isEmpty then none
  else some (String.ofList ((beginning.getD []).drop 1 ++ read.reverse), next)

def tagHandle? (cursor : Cursor) : Option (List Char × Cursor) :=
  if cursor.looksAt 0 (· = '!') then
    let (name, next) := (cursor.advance 1).takeWhile isNameCharacter
    if next.looksAt 0 (· = '!') then some ('!' :: name ++ ['!'], next.advance 1)
    else some ('!' :: name, next)
  else none

/-- A tag as its handle and its suffix. The lone mark has an empty handle. -/
def tag? (flow : Bool) (cursor : Cursor) : Option (Token × Cursor) := do
  let (token, next) ←
    if cursor.looksAt 1 (· = '<') then do
      let (suffix, next) ← tagSuffix? true none (cursor.advance 2)
      if next.looksAt 0 (· = '>') then some (Token.tag "" suffix, next.advance 1) else none
    else do
      let (handle, next) ← tagHandle? cursor
      if 1 < handle.length ∧ handle.getLast? = some '!' then
        let (suffix, next) ← tagSuffix? false none next
        return (Token.tag (String.ofList handle) suffix, next)
      else
        let (suffix, next) ← tagSuffix? false (some handle) next
        return (if suffix.isEmpty then Token.tag "" "!" else Token.tag "!" suffix, next)
  if next.endsWordAt 0 || (flow && next.looksAt 0 (· = ',')) then some (token, next) else none

/-- A part of a version: at most nine digits. -/
def versionPart? (cursor : Cursor) : Option (Nat × Cursor) :=
  let (digits, next) := cursor.takeWhile Char.isDigit
  if digits.isEmpty || 9 < digits.length then none
  else some (digits.foldl (fun value digit => value * 10 + (digit.toNat - '0'.toNat)) 0, next)

def versionDirective? (cursor : Cursor) : Option (Token × Cursor) := do
  let (major, next) ← versionPart? (cursor.skipWhile isSpaceOrTab)
  if next.looksAt 0 (· = '.') then
    let (minor, next) ← versionPart? (next.advance 1)
    return (.versionDirective major minor, next)
  else none

def tagDirective? (cursor : Cursor) : Option (Token × Cursor) := do
  let (handle, next) ← tagHandle? (cursor.skipWhile isSpaceOrTab)
  if handle.getLast? = some '!' ∧ next.looksAt 0 isSpaceOrTab then
    let (stem, next) ← tagSuffix? true none (next.skipWhile isSpaceOrTab)
    if next.endsWordAt 0 then some (.tagDirective (String.ofList handle) stem, next) else none
  else none

def directive? (cursor : Cursor) : Option (Token × Cursor) := do
  let (name, next) := (cursor.advance 1).takeWhile isNameCharacter
  if !next.endsWordAt 0 then none
  let (token, next) ←
    match String.ofList name with
    | "YAML" => versionDirective? next
    | "TAG" => tagDirective? next
    | _ => none
  return (token, ← next.restOfLine?)

end CrdCompiler.Yaml.Name
