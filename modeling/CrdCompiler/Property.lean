import CrdCompiler.Constraint
import CrdCompiler.TypeDescriptor

/-!
Property trees: what the compiler hands to a renderer for one subtree of a resource.
-/

namespace CrdCompiler

/-- A named field of a resource with the fields below it. The three names are the schema key, its
identifier and its attribute name. -/
structure Property where
  name : String
  normalizedName : String
  attributeName : String
  description : String
  type : TypeDescriptor
  required : Bool
  optional : Bool
  computed : Bool
  immutable : Bool
  default : Option Literal
  validators : List Constraint
  children : List Property
deriving Repr

namespace Property

def attributeKind (property : Property) : AttributeKind :=
  property.type.attributeKind

/-- One level of siblings in ascending order of names, those of one name in their given order. -/
def sortSiblings (properties : List Property) : List Property :=
  properties.mergeSort fun left right => left.name ≤ right.name

def isAscending : List Property → Bool
  | left :: right :: rest => decide (left.name ≤ right.name) && isAscending (right :: rest)
  | _ => true

mutual

def hasCanonicalChildren : Property → Bool
  | { children, .. } => isAscending children && allHaveCanonicalChildren children

def allHaveCanonicalChildren : List Property → Bool
  | [] => true
  | property :: rest => property.hasCanonicalChildren && allHaveCanonicalChildren rest

end

/-- A list of siblings ascends by name, and so does every level below it. -/
def isCanonical (properties : List Property) : Bool :=
  isAscending properties && allHaveCanonicalChildren properties

end Property

end CrdCompiler
