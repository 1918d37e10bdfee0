import CrdCompiler.Yaml.Gap

/-!
Block scalars: indented lines after a header. A literal one keeps its line ends; a folded one joins
lines that begin without a blank. The header says whether line ends at the end are kept, and may say
how far the lines are indented.
-/

namespace CrdCompiler.Yaml.BlockScalar

inductive Chomping where
  | strip
  | clip
  | keep
deriving DecidableEq, Repr

def chomping? : Char → Option Chomping
  | '+' => some .keep
  | '-' => some .strip
  | _ => none

/-- A digit of the header. Zero is no indentation. -/
def increment? (cursor : Cursor) : Option (Option Nat × Cursor) :=
  match cursor.rest with
  | digit :: _ =>
    if digit.isDigit then
      if digit = '0' then none else some (some (digit.toNat - '0'.toNat), cursor.advance 1)
    else some (none, cursor)
  | [] => some (none, cursor)

def chompingMark (cursor : Cursor) : Option Chomping × Cursor :=
  match cursor.rest.head?.bind chomping? with
  | some chomping => (some chomping, cursor.advance 1)
  | none => (none, cursor)

def header? (cursor : Cursor) : Option (Chomping × Option Nat × Cursor) := do
  let (before, cursor) := chompingMark cursor
  let (increment, cursor) ← increment? cursor
  let (after, cursor) :=
    if before.isNone && increment.isSome then chompingMark cursor else (none, cursor)
  let cursor ← cursor.restOfLine?
  return ((before <|> after).getD .clip, increment, cursor)

/-- Reads empty lines and the indentation of the next line. Without a known indentation the widest
line of blanks counts. -/
def emptyLines? (indent : Option Nat) :
    Nat → List Char → Nat → Cursor → Option (List Char × Nat × Cursor)
  | 0, ends, widest, cursor => some (ends, widest, cursor)
  | fuel + 1, ends, widest, cursor =>
    let inside (column : Nat) : Bool :=
      match indent with
      | some indent => column < indent
      | none => true
    let spaces := (cursor.rest.takeWhile (· = ' ')).length
    let spaces :=
      match indent with
      | some indent => min spaces (indent - cursor.column)
      | none => spaces
    let cursor := cursor.advance spaces
    let widest := max widest cursor.column
    if inside cursor.column && cursor.looksAt 0 (· = '\t') then none
    else
      match cursor.lineEnd? with
      | some (lineEnd, next) => emptyLines? indent fuel (ends ++ [lineEnd]) widest next
      | none => some (ends, widest, cursor)

/-- What was read of a block scalar: its text in reverse, the last line end, the empty lines after
it, and whether the last line began with a blank. -/
structure Lines where
  read : List Char := []
  lineEnd : Option Char := none
  empty : List Char
  blank : Bool := false

namespace Lines

def joined (lines : Lines) (literal blank : Bool) : List Char :=
  if !literal && lines.lineEnd = some '\n' && !lines.blank && !blank then
    lines.empty.reverse ++ (if lines.empty.isEmpty then ' ' :: lines.read else lines.read)
  else lines.empty.reverse ++ lines.lineEnd.toList ++ lines.read

def chomped (lines : Lines) : Chomping → List Char
  | .strip => lines.read
  | .clip => lines.lineEnd.toList ++ lines.read
  | .keep => lines.empty.reverse ++ lines.lineEnd.toList ++ lines.read

end Lines

def lines? (literal : Bool) (indent : Nat) : Nat → Lines → Cursor → Option (Lines × Cursor)
  | 0, lines, cursor => some (lines, cursor)
  | fuel + 1, lines, cursor =>
    if cursor.column ≠ indent ∨ cursor.rest.isEmpty then some (lines, cursor)
    else do
      let blank := cursor.looksAt 0 isSpaceOrTab
      let read := lines.joined literal blank
      let (line, next) := cursor.takeWhile (!isLineEnd ·)
      let (lineEnd, next) :=
        match next.lineEnd? with
        | some (lineEnd, next) => (some lineEnd, next)
        | none => (none, next)
      let (empty, _, next) ← emptyLines? (some indent) (next.rest.length + 1) [] 0 next
      lines? literal indent fuel ⟨line.reverse ++ read, lineEnd, empty, blank⟩ next

def read? (literal : Bool) (outer : Int) (cursor : Cursor) : Option (String × Cursor) := do
  let (chomping, increment, cursor) ← header? (cursor.advance 1)
  let given := increment.map fun increment => (max outer 0).toNat + increment
  let (empty, widest, cursor) ← emptyLines? given (cursor.rest.length + 1) [] 0 cursor
  let indent := given.getD (max (max widest (outer + 1).toNat) 1)
  let (lines, cursor) ← lines? literal indent (cursor.rest.length + 1) { empty } cursor
  return (String.ofList (lines.chomped chomping).reverse, cursor)

end CrdCompiler.Yaml.BlockScalar
