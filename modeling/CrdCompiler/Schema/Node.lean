import CrdCompiler.Json.Value

/-!
Schema nodes: the keywords of a structural schema that decide what a resource looks like.
-/

namespace CrdCompiler

/-- What a node says about members that are not among its properties. -/
inductive AdditionalProperties (schema : Type) where
  | absent
  | flag (allowed : Bool)
  | schema (node : schema)
deriving Repr

/-- One node of a structural schema. The properties keep the order of the text they come from. -/
structure SchemaNode where
  type : Option String := none
  properties : List (String × SchemaNode) := []
  additionalProperties : AdditionalProperties SchemaNode := .absent
  items : Option SchemaNode := none
  required : List String := []
  description : Option String := none
  default : Option Json := none
  enum : List Json := []
  minimum : Option Binary64 := none
  maximum : Option Binary64 := none
  exclusiveMinimum : Bool := false
  exclusiveMaximum : Bool := false
  minLength : Option UInt64 := none
  maxLength : Option UInt64 := none
  pattern : Option String := none
  format : Option String := none
deriving Repr

namespace SchemaNode

def requires (node : SchemaNode) (name : String) : Bool :=
  node.required.contains name

def withoutProperties (node : SchemaNode) (names : List String) : SchemaNode :=
  { node with properties := node.properties.filter fun (name, _) => !names.contains name }

def property? (node : SchemaNode) (name : String) : Option SchemaNode :=
  node.properties.lookup name

end SchemaNode

end CrdCompiler
