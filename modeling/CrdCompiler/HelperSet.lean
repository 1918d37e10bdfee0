import CrdCompiler.Property

/-!
The helper families that a renderer has to import for a document: one for the defaults and one for
the validators of each scalar kind, and two special validators. A summary is a union over all
properties at all levels.
-/

namespace CrdCompiler

structure HelperSet where
  defaultsString : Bool := false
  defaultsInt64 : Bool := false
  defaultsFloat64 : Bool := false
  defaultsBool : Bool := false
  validatorString : Bool := false
  validatorInt64 : Bool := false
  validatorFloat64 : Bool := false
  validatorBool : Bool := false
  validatorBase64 : Bool := false
  validatorDateTime : Bool := false
deriving DecidableEq, Repr

namespace HelperSet

def none : HelperSet := {}

def union (left right : HelperSet) : HelperSet where
  defaultsString := left.defaultsString || right.defaultsString
  defaultsInt64 := left.defaultsInt64 || right.defaultsInt64
  defaultsFloat64 := left.defaultsFloat64 || right.defaultsFloat64
  defaultsBool := left.defaultsBool || right.defaultsBool
  validatorString := left.validatorString || right.validatorString
  validatorInt64 := left.validatorInt64 || right.validatorInt64
  validatorFloat64 := left.validatorFloat64 || right.validatorFloat64
  validatorBool := left.validatorBool || right.validatorBool
  validatorBase64 := left.validatorBase64 || right.validatorBase64
  validatorDateTime := left.validatorDateTime || right.validatorDateTime

def ofDefault : ScalarKind → HelperSet
  | .string => { defaultsString := true }
  | .int64 => { defaultsInt64 := true }
  | .float64 => { defaultsFloat64 := true }
  | .bool => { defaultsBool := true }

def ofValidator : ScalarKind → HelperSet
  | .string => { validatorString := true }
  | .int64 => { validatorInt64 := true }
  | .float64 => { validatorFloat64 := true }
  | .bool => { validatorBool := true }

/-- The helpers of a rule on a property of the given shape. Two rules have helpers of their own. -/
def ofConstraint (type : TypeDescriptor) : Constraint → HelperSet
  | .base64 => { validatorBase64 := true }
  | .dateTime => { validatorDateTime := true }
  | _ =>
    match type.scalarKind? with
    | some kind => ofValidator kind
    | .none => none

def ofConstraints (type : TypeDescriptor) (constraints : List Constraint) : HelperSet :=
  constraints.foldr (fun constraint rest => (ofConstraint type constraint).union rest) none

mutual

def ofProperty : Property → HelperSet
  | { type, default, validators, children, .. } =>
    let defaults :=
      match default with
      | some literal => ofDefault literal.kind
      | .none => none
    (defaults.union (ofConstraints type validators)).union (ofProperties children)

def ofProperties : List Property → HelperSet
  | [] => none
  | property :: rest => (ofProperty property).union (ofProperties rest)

end

def record (helpers : HelperSet) (property : Property) : HelperSet :=
  helpers.union (ofProperty property)

def collect (trees : List (List Property)) : HelperSet :=
  trees.foldl (fun helpers tree => tree.foldl record helpers) none

def isEmpty (helpers : HelperSet) : Bool :=
  helpers = none

end HelperSet

end CrdCompiler
