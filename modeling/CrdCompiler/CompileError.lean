import CrdCompiler.Json.Writer
import CrdCompiler.Scalar
import CrdCompiler.SchemaPath

/-!
Why a schema does not compile. A cause is data; its wording is one function.
-/

namespace CrdCompiler

inductive ReadFault where
  | unreadable
  | malformed
deriving DecidableEq, Repr

inductive ShapeFault where
  | tooDeep (limit : Nat)
  | untyped
  | unknownType (keyword : String)
  | fieldsAndValues
  | noFields
  | untypedValues
  | nestedValues
  | noItems
  | nestedItems
  | rootNotObject (keyword : String)
  | rootIsMap
  | noVersions
  | noSchema
  | noSpec
  | noStatus
deriving DecidableEq, Repr

inductive BoundSide where
  | minimum
  | maximum
deriving DecidableEq, Repr

inductive ValueFault where
  | undecodable (what : String) (raw : Json) (kind : ScalarKind)
  | notFinite (side : BoundSide) (value : Binary64)
  | notInt64 (side : BoundSide) (value : Binary64)
deriving Repr

inductive CompileError where
  | unreadable (file : String) (fault : ReadFault)
  | shape (path : SchemaPath) (fault : ShapeFault)
  | value (path : SchemaPath) (fault : ValueFault)
deriving Repr

def ReadFault.reason : ReadFault → String
  | .unreadable => "cannot read file"
  | .malformed => "invalid CustomResourceDefinition"

def ShapeFault.reason : ShapeFault → String
  | .tooDeep limit => s!"nesting exceeds the maximum depth of {limit}"
  | .untyped => "node has no type"
  | .unknownType keyword => s!"unrecognized type '{keyword}'"
  | .fieldsAndValues => "object declares both properties and additionalProperties"
  | .noFields => "object declares neither properties nor additionalProperties"
  | .untypedValues => "additionalProperties: true without a value schema cannot be typed"
  | .nestedValues => "map values must be scalars or objects with properties"
  | .noItems => "array node has no items"
  | .nestedItems => "array items must be scalars or objects with properties"
  | .rootNotObject keyword => s!"subtree root must be an object, found '{keyword}'"
  | .rootIsMap => "subtree root must declare properties, not additionalProperties"
  | .noVersions => "CRD declares no versions"
  | .noSchema => "version has no openAPIV3Schema"
  | .noSpec => "schema has no spec property"
  | .noStatus => "schema has no status property"

def BoundSide.name : BoundSide → String
  | .minimum => "minimum"
  | .maximum => "maximum"

def ValueFault.reason : ValueFault → String
  | .undecodable what raw kind => what ++ " " ++ raw.compact ++ " is not a valid " ++ kind.name
  | .notFinite side value =>
    side.name ++ " " ++ NumberLayout.plain.text value ++ " is not finite"
  | .notInt64 side value =>
    side.name ++ " " ++ NumberLayout.plain.text value ++ " is not a valid int64 bound"

namespace CompileError

def message : CompileError → String
  | .unreadable file fault => s!"failed to read schema '{file}': " ++ fault.reason
  | .shape path fault => s!"schema shape error at '" ++ path.text ++ "': " ++ fault.reason
  | .value path fault => s!"schema value error at '" ++ path.text ++ "': " ++ fault.reason

def kind : CompileError → String
  | .unreadable _ _ => "FileReadError"
  | .shape _ _ => "SchemaShapeError"
  | .value _ _ => "SchemaValueError"

def path? : CompileError → Option SchemaPath
  | .unreadable _ _ => none
  | .shape path _ => some path
  | .value path _ => some path

end CompileError

end CrdCompiler
