/-!
Tokens: marks, names and scalars of a text, with the nesting that indentation stands for made
explicit.
-/

namespace CrdCompiler.Yaml

inductive ScalarStyle where
  | plain
  | quoted
  | literal
  | folded
deriving DecidableEq, Repr

inductive Token where
  | versionDirective (major minor : Nat)
  | tagDirective (handle stem : String)
  | documentStart
  | documentEnd
  | streamEnd
  | blockSequenceStart
  | blockMappingStart
  | blockEnd
  | flowSequenceStart
  | flowSequenceEnd
  | flowMappingStart
  | flowMappingEnd
  | blockEntry
  | flowEntry
  | key
  | value
  | alias (name : String)
  | anchor (name : String)
  | tag (handle suffix : String)
  | scalar (style : ScalarStyle) (text : String)
deriving DecidableEq, Repr

end CrdCompiler.Yaml
