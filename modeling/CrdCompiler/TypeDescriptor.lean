import CrdCompiler.Scalar

/-!
The shape of a property, and the family of provider attribute that a shape becomes. The fields of a
structure, also of one inside a map or an array, are not part of the shape: they are the children of
the property that has it.
-/

namespace CrdCompiler

inductive TypeDescriptor where
  | scalar (kind : ScalarKind)
  | map (values : TypeDescriptor)
  | struct
  | array (elements : TypeDescriptor)
deriving DecidableEq, Repr

inductive AttributeKind where
  | string
  | int64
  | float64
  | bool
  | map (element : ScalarKind)
  | mapNested
  | singleNested
  | list (element : ScalarKind)
  | listNested
deriving DecidableEq, Repr

namespace TypeDescriptor

def scalarKind? : TypeDescriptor → Option ScalarKind
  | .scalar kind => some kind
  | _ => none

def elementKind? : TypeDescriptor → Option ScalarKind
  | .map values => values.scalarKind?
  | .array elements => elements.scalarKind?
  | _ => none

/-- Structures, and maps and arrays of structures, have fields. -/
def isStructBearing : TypeDescriptor → Bool
  | .struct => true
  | .map .struct => true
  | .array .struct => true
  | _ => false

def isElement : TypeDescriptor → Bool
  | .scalar _ => true
  | .struct => true
  | _ => false

def attributeKind : TypeDescriptor → AttributeKind
  | .scalar .string => .string
  | .scalar .int64 => .int64
  | .scalar .float64 => .float64
  | .scalar .bool => .bool
  | .struct => .singleNested
  | .map values =>
    match values.scalarKind? with
    | some element => .map element
    | none => .mapNested
  | .array elements =>
    match elements.scalarKind? with
    | some element => .list element
    | none => .listNested

end TypeDescriptor

end CrdCompiler
