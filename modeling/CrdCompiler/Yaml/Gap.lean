import CrdCompiler.Yaml.Cursor

/-!
Gaps between the words of a scalar. Blanks on one line stand for themselves; across lines, one line
end stands for a space and more stand for one less.
-/

namespace CrdCompiler.Yaml

/-- What was read between two words: blanks before the first line end, that line end, and the line
ends after it. `broken` holds from the first line end on, also for one that counts for nothing. -/
structure Gap where
  blanks : List Char := []
  first : Option Char := none
  others : List Char := []
  broken : Bool := false
deriving Repr

namespace Gap

def addBlank (gap : Gap) (blank : Char) : Gap :=
  if gap.broken then gap else { gap with blanks := gap.blanks ++ [blank] }

def addLineEnd (gap : Gap) (lineEnd : Char) : Gap :=
  if gap.broken then { gap with others := gap.others ++ [lineEnd] }
  else { gap with blanks := [], first := some lineEnd, broken := true }

/-- A first line end folds when it is a line feed; a separator is kept. -/
def fold (first : Option Char) (others : List Char) : List Char :=
  if first = some '\n' then if others.isEmpty then [' '] else others
  else first.toList ++ others

def text (gap : Gap) : List Char :=
  if gap.broken then fold gap.first gap.others else gap.blanks

/-- Reads blanks and line ends. With an indent given, a tab before that column of a later line is an
error. -/
def read? (indent : Option Int) : Nat → Gap → Cursor → Option (Gap × Cursor)
  | 0, gap, cursor => some (gap, cursor)
  | fuel + 1, gap, cursor =>
    match cursor.lineEnd? with
    | some (lineEnd, next) => read? indent fuel (gap.addLineEnd lineEnd) next
    | none =>
      match cursor.rest with
      | blank :: _ =>
        if isSpaceOrTab blank then
          let abuse :=
            match indent with
            | some indent => gap.broken && blank = '\t' && cursor.column < indent
            | none => false
          if abuse then none else read? indent fuel (gap.addBlank blank) (cursor.advance 1)
        else some (gap, cursor)
      | [] => some (gap, cursor)

end Gap

end CrdCompiler.Yaml
