import CrdCompiler.Yaml.Gap

/-!
Plain scalars: words without quotes. A colon before a blank ends one, and so does a number sign
after a blank, a line that is not indented enough, and, inside brackets, any bracket or comma.
-/

namespace CrdCompiler.Yaml.PlainScalar

def isFlowIndicator (character : Char) : Bool :=
  character = ',' || character = '[' || character = ']' || character = '\x7b' || character = '\x7d'

/-- The characters of one word, in reverse. A colon right before a bracket, a comma or a question
mark is an error inside brackets. -/
def word? (flow : Bool) : Nat → List Char → Cursor → Option (List Char × Cursor)
  | 0, read, cursor => some (read, cursor)
  | fuel + 1, read, cursor =>
    match cursor.rest with
    | [] => some (read, cursor)
    | character :: _ =>
      if isSpaceOrTab character || isLineEnd character then some (read, cursor)
      else if character = ':' && flow && cursor.looksAt 1 (fun next =>
          isFlowIndicator next || next = '?') then none
      else if (character = ':' && cursor.endsWordAt 1) || (flow && isFlowIndicator character) then
        some (read, cursor)
      else word? flow fuel (character :: read) (cursor.advance 1)

/-- The words of a scalar, joined by what their gaps stand for. The result tells whether the last
gap, which belongs to no word, went across lines. -/
def words? (flow : Bool) (indent : Int) :
    Nat → List Char → Gap → Cursor → Option (List Char × Bool × Cursor)
  | 0, read, gap, cursor => some (read, gap.broken, cursor)
  | fuel + 1, read, gap, cursor =>
    if cursor.atDocumentMarker || cursor.looksAt 0 (· = '#') then some (read, gap.broken, cursor)
    else do
      let (characters, next) ← word? flow cursor.rest.length [] cursor
      let (read, gap) :=
        if characters.isEmpty then (read, gap)
        else (characters ++ gap.text.reverse ++ read, {})
      if next.rest.isEmpty || !next.endsWordAt 0 then some (read, gap.broken, next)
      else
        let (gap, next) ← Gap.read? (some indent) next.rest.length gap next
        if !flow && next.column < indent then some (read, gap.broken, next)
        else words? flow indent fuel read gap next

def read? (flow : Bool) (indent : Int) (cursor : Cursor) : Option (String × Bool × Cursor) := do
  let (read, broken, next) ← words? flow (indent + 1) (cursor.rest.length + 1) [] {} cursor
  return (String.ofList read.reverse, broken, next)

end CrdCompiler.Yaml.PlainScalar
