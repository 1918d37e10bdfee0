import CrdCompiler.Text.CharacterClass

/-!
Quoted text for people: double quotes around it, the usual backslash escapes, and every character
that would not show by itself as its code point in braces.
-/

namespace CrdCompiler.Text

def hexadecimal (number : Nat) : String :=
  String.ofList (Nat.toDigits 16 number)

def quotedCharacter (character : Char) : String :=
  match character with
  | '\x00' => "\\0"
  | '\t' => "\\t"
  | '\r' => "\\r"
  | '\n' => "\\n"
  | '"' => "\\\""
  | '\\' => "\\\\"
  | _ =>
    if unprintable.contains character then "\\u\x7b" ++ hexadecimal character.toNat ++ "\x7d"
    else character.toString

def quoted (text : String) : String :=
  "\"" ++ String.join (text.toList.map quotedCharacter) ++ "\""

def quotedList (texts : List String) : String :=
  "[" ++ String.intercalate ", " (texts.map quoted) ++ "]"

end CrdCompiler.Text
