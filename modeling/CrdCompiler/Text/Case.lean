import CrdCompiler.Text.CaseTable
import CrdCompiler.Text.CharacterClass

/-!
Full case mapping: a character may map to several characters, and the Greek capital sigma takes its
final form at the end of a word.
-/

namespace CrdCompiler.Text

/-- The form of a character: its expansion, the image in the first range that covers it, or the
character itself. -/
def mapped (expansions : List (Nat × List Nat)) (ranges : List CaseRange)
    (character : Char) : List Char :=
  match expansions.find? (·.1 = character.toNat) with
  | some (_, image) => image.map Char.ofNat
  | none =>
    match ranges.find? (·.Covers character.toNat) with
    | some range => [Char.ofNat (range.image character.toNat)]
    | none => [character]

def lowerCharacter (character : Char) : List Char :=
  mapped lowerExpansions lowerRanges character

def upperCharacter (character : Char) : List Char :=
  mapped upperExpansions upperRanges character

/-- The first character that is not ignorable is cased. -/
def leadsToCased (characters : List Char) : Bool :=
  match characters.dropWhile caseIgnorable.contains with
  | character :: _ => cased.contains character
  | [] => false

/-- A sigma is final when a cased character stands before it and none after it, ignorable
characters aside. `before` holds the characters before it, nearest first. -/
def isFinalSigma (before after : List Char) : Bool :=
  leadsToCased before && !leadsToCased after

def lowerFrom (before : List Char) : List Char → List Char
  | [] => []
  | character :: after =>
    let image :=
      if character = 'Σ' then [if isFinalSigma before after then 'ς' else 'σ']
      else lowerCharacter character
    image ++ lowerFrom (character :: before) after

def lowercase (text : String) : String :=
  String.ofList (lowerFrom [] text.toList)

end CrdCompiler.Text
