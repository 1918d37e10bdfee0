/-!
A place in a text: the characters from there on, how many came before, and the line and column.
Moving on never changes the characters ahead; a line ends at a carriage return, a line feed, both
together, or one of the three other line ends of Unicode.
-/

namespace CrdCompiler.Yaml

def isLineEnd (character : Char) : Bool :=
  character = '\n' || character = '\r' || character = '\u0085' || character = '\u2028' ||
    character = '\u2029'

def isSpaceOrTab (character : Char) : Bool :=
  character = ' ' || character = '\t'

def isNameCharacter (character : Char) : Bool :=
  character.isAlphanum || character = '_' || character = '-'

def isReadable (character : Char) : Bool :=
  let code := character.toNat
  code = 0x09 || code = 0x0A || code = 0x0D || (0x20 ≤ code && code ≤ 0x7E) || code = 0x85 ||
    (0xA0 ≤ code && code ≤ 0xFFFD) || 0x10000 ≤ code

structure Cursor where
  rest : List Char
  index : Nat := 0
  line : Nat := 0
  column : Nat := 0
deriving Repr

namespace Cursor

def advance (cursor : Cursor) (count : Nat) : Cursor where
  rest := cursor.rest.drop count
  index := cursor.index + count
  line := cursor.line
  column := cursor.column + count

private def newLine (cursor : Cursor) (count : Nat) : Cursor where
  rest := cursor.rest.drop count
  index := cursor.index + count
  line := cursor.line + 1
  column := 0

/-- Reads a line end. Only the line and paragraph separators are kept as they are; any other line
end is read as a line feed. -/
def lineEnd? (cursor : Cursor) : Option (Char × Cursor) :=
  match cursor.rest with
  | '\r' :: '\n' :: _ => some ('\n', cursor.newLine 2)
  | character :: _ =>
    if character = '\u2028' ∨ character = '\u2029' then some (character, cursor.newLine 1)
    else if isLineEnd character then some ('\n', cursor.newLine 1)
    else none
  | [] => none

/-- Reads characters of a class that holds no line end. -/
def takeWhile (cursor : Cursor) (belongs : Char → Bool) : List Char × Cursor :=
  let taken := cursor.rest.takeWhile belongs
  (taken, cursor.advance taken.length)

def skipWhile (cursor : Cursor) (belongs : Char → Bool) : Cursor :=
  (cursor.takeWhile belongs).2

def looksAt (cursor : Cursor) (offset : Nat) (test : Char → Bool) : Bool :=
  match cursor.rest[offset]? with
  | some character => test character
  | none => false

def endsWordAt (cursor : Cursor) (offset : Nat) : Bool :=
  match cursor.rest[offset]? with
  | some character => isSpaceOrTab character || isLineEnd character
  | none => true

/-- A line that begins with three of the given characters and then a blank or nothing. -/
def atMarker (cursor : Cursor) (mark : Char) : Bool :=
  cursor.column = 0 && cursor.rest.take 3 = [mark, mark, mark] && cursor.endsWordAt 3

def atDocumentMarker (cursor : Cursor) : Bool :=
  cursor.atMarker '-' || cursor.atMarker '.'

/-- Skips blanks and a comment; what follows has to be the end of the line, which is skipped too. -/
def restOfLine? (cursor : Cursor) : Option Cursor :=
  let cursor := cursor.skipWhile isSpaceOrTab
  let cursor := if cursor.looksAt 0 (· = '#') then cursor.skipWhile (!isLineEnd ·) else cursor
  match cursor.lineEnd? with
  | some (_, cursor) => some cursor
  | none => if cursor.rest.isEmpty then some cursor else none

end Cursor

end CrdCompiler.Yaml
