import CrdCompiler.Scalar

/-!
Validation rules of scalar properties.
-/

namespace CrdCompiler

/-- A rule that the value of a property obeys. A pattern comes with its source literal, ready to be
pasted between other source text. -/
inductive Constraint where
  | oneOf (values : List Literal)
  | lengthAtLeast (least : UInt64)
  | lengthAtMost (greatest : UInt64)
  | regexMatches (pattern literal : String)
  | base64
  | dateTime
  | atLeast (bound : Literal)
  | atMost (bound : Literal)
deriving DecidableEq, Repr

end CrdCompiler
