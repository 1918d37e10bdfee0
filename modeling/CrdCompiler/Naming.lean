import CrdCompiler.Text.Case

/-!
Names derived from schema keys: the attribute name, lower-case words joined by underscores, and the
identifier, capitalized words joined together.

An attribute name is found in two passes over the key. The first puts an underscore before each
capitalized word, the second between a small letter or digit and a capital; separators then become
underscores and the whole is lower-cased.
-/

namespace CrdCompiler.Naming

def isCapital (character : Char) : Bool :=
  'A' ≤ character && character ≤ 'Z'

def isSmall (character : Char) : Bool :=
  'a' ≤ character && character ≤ 'z'

def isDigit (character : Char) : Bool :=
  '0' ≤ character && character ≤ '9'

def isSeparator (character : Char) : Bool :=
  character = '-' || character = '.' || character = '/' || character = ':'

/-- An underscore goes between any character on the line and a capital followed by small letters.
Those small letters belong to the word, so the search goes on after them: `inWord` says that the
text so far ends in such a word. -/
def markWords (inWord : Bool) : List Char → List Char
  | [] => []
  | character :: rest =>
    if inWord && isSmall character then character :: markWords true rest
    else
      match rest with
      | capital :: small :: tail =>
        if character != '\n' && isCapital capital && isSmall small then
          character :: '_' :: capital :: small :: markWords true tail
        else character :: markWords false (capital :: small :: tail)
      | rest => character :: markWords false rest

/-- An underscore goes between a small letter or digit and a capital. -/
def markCapitals : List Char → List Char
  | [] => []
  | character :: rest =>
    match rest with
    | capital :: tail =>
      if (isSmall character || isDigit character) && isCapital capital then
        character :: '_' :: capital :: markCapitals tail
      else character :: markCapitals (capital :: tail)
    | [] => [character]

def markBoundaries (name : List Char) : List Char :=
  markCapitals (markWords false name)

def attributeName (name : String) : String :=
  let marked := markBoundaries name.toList
  Text.lowercase (String.ofList (marked.map fun character =>
    if isSeparator character then '_' else character))

def isIdentifierSeparator (character : Char) : Bool :=
  character = '_' || isSeparator character || Text.isBlank character

/-- The nonempty runs of characters between separators. -/
def words (name : List Char) : List (List Char) :=
  (name.splitBy fun left right => isIdentifierSeparator left == isIdentifierSeparator right).filter
    fun run => run.any (!isIdentifierSeparator ·)

def capitalize : List Char → List Char
  | [] => []
  | character :: rest => Text.upperCharacter character ++ rest

def identifier (name : String) : String :=
  String.ofList ((words name.toList).flatMap capitalize)

example : attributeName "HTTPServer-ipV4" = "http_server_ip_v4" := by decide +kernel
example : identifier "kubernetes.io/name" = "KubernetesIoName" := by decide +kernel

end CrdCompiler.Naming
