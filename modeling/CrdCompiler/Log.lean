import CrdCompiler.Text.Quoted

/-!
Log lines: a level, a message and named values. How many levels are shown is a matter of verbosity.
-/

namespace CrdCompiler

inductive LogLevel where
  | error
  | warn
  | info
  | debug
deriving DecidableEq, Repr

/-- An entry of the log, its values in the wording in which they are shown. -/
structure LogEntry where
  level : LogLevel
  message : String
  values : List (String × String) := []
deriving Repr

/-- How many levels are shown, the gravest first. -/
abbrev Verbosity := Nat

namespace LogLevel

def label : LogLevel → String
  | .error => "ERROR"
  | .warn => " WARN"
  | .info => " INFO"
  | .debug => "DEBUG"

def rank : LogLevel → Nat
  | .error => 1
  | .warn => 2
  | .info => 3
  | .debug => 4

end LogLevel

namespace LogEntry

/-- A character of a message, made harmless for terminals. -/
def messageCharacter (character : Char) : String :=
  if ['\x1b', '\x07', '\x08', '\x0c', '\x7f'].contains character then
    "\\x" ++ (if character.toNat < 16 then "0" else "") ++ Text.hexadecimal character.toNat
  else if '\u0080' ≤ character ∧ character ≤ '\u009f' then
    "\\u\x7b" ++ Text.hexadecimal character.toNat ++ "\x7d"
  else character.toString

def text (entry : LogEntry) : String :=
  entry.level.label ++ " " ++ String.join (entry.message.toList.map messageCharacter) ++
    String.join (entry.values.map fun (name, value) => " " ++ name ++ "=" ++ value)

def isShown (entry : LogEntry) (verbosity : Verbosity) : Bool :=
  entry.level.rank ≤ verbosity

end LogEntry

end CrdCompiler
