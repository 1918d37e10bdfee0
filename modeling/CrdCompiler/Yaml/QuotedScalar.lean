import CrdCompiler.Yaml.Gap

/-!
Quoted scalars. Between single quotes a quote is doubled and nothing else is special; between double
quotes a backslash begins an escape. Line ends fold in both.
-/

namespace CrdCompiler.Yaml

def hexDigit? (digit : Char) : Option Nat :=
  if digit.isDigit then some (digit.toNat - '0'.toNat)
  else if 'a' ≤ digit ∧ digit ≤ 'f' then some (digit.toNat - 'a'.toNat + 10)
  else if 'A' ≤ digit ∧ digit ≤ 'F' then some (digit.toNat - 'A'.toNat + 10)
  else none

def hexValue? (digits : List Char) : Option Nat :=
  digits.foldlM (fun value digit => (value * 16 + ·) <$> hexDigit? digit) 0

namespace QuotedScalar

def namedEscape? : Char → Option Char
  | '0' => some '\x00'
  | 'a' => some '\x07'
  | 'b' => some '\x08'
  | 't' => some '\t'
  | '\t' => some '\t'
  | 'n' => some '\n'
  | 'v' => some '\x0b'
  | 'f' => some '\x0c'
  | 'r' => some '\r'
  | 'e' => some '\x1b'
  | ' ' => some ' '
  | '"' => some '"'
  | '/' => some '/'
  | '\\' => some '\\'
  | 'N' => some '\u0085'
  | '_' => some '\u00a0'
  | 'L' => some '\u2028'
  | 'P' => some '\u2029'
  | _ => none

def escapeLength? : Char → Option Nat
  | 'x' => some 2
  | 'u' => some 4
  | 'U' => some 8
  | _ => none

/-- The character of an escape, and how many characters after the backslash it takes. -/
def escape? : List Char → Option (Char × Nat)
  | [] => none
  | letter :: rest =>
    match namedEscape? letter with
    | some character => some (character, 1)
    | none => do
      let length ← escapeLength? letter
      let digits := rest.take length
      if digits.length < length then none
      else
        let code ← hexValue? digits
        if code.isValidChar then some (Char.ofNat code, length + 1) else none

/-- The words up to the closing quote; the text read so far is held in reverse. Every round takes at
least one character. -/
def words? (single : Bool) : Nat → List Char → Cursor → Option (String × Cursor)
  | 0, _, _ => none
  | fuel + 1, read, cursor =>
    if cursor.atDocumentMarker then none
    else
      match cursor.rest with
      | [] => none
      | '\'' :: rest =>
        if single then
          if rest.head? = some '\'' then words? single fuel ('\'' :: read) (cursor.advance 2)
          else some (String.ofList read.reverse, cursor.advance 1)
        else words? single fuel ('\'' :: read) (cursor.advance 1)
      | '"' :: _ =>
        if single then words? single fuel ('"' :: read) (cursor.advance 1)
        else some (String.ofList read.reverse, cursor.advance 1)
      | character :: rest =>
        if isSpaceOrTab character || isLineEnd character then do
          let (gap, next) ← Gap.read? none cursor.rest.length {} cursor
          words? single fuel (gap.text.reverse ++ read) next
        else if character = '\\' && !single then
          match (cursor.advance 1).lineEnd? with
          | some (_, next) => do
            let (gap, next) ← Gap.read? none next.rest.length { broken := true } next
            words? single fuel (gap.text.reverse ++ read) next
          | none => do
            let (escaped, length) ← escape? rest
            words? single fuel (escaped :: read) (cursor.advance (length + 1))
        else words? single fuel (character :: read) (cursor.advance 1)

def read? (single : Bool) (cursor : Cursor) : Option (String × Cursor) :=
  words? single cursor.rest.length [] (cursor.advance 1)

end QuotedScalar

end CrdCompiler.Yaml
