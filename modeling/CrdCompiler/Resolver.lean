import CrdCompiler.Metadata
import CrdCompiler.Naming
import CrdCompiler.Property

/-!
From schema nodes to property trees. A node with a scalar type is a leaf; an object with properties
is a structure; an object with a schema for its values is a map; an array with items is a list. The
values of a map and the items of a list are scalars or structures, and only there may a structure
have no fields.

Depth counts the structures around a node. Maps and lists add nothing to it, and add nothing to the
path of their elements either.
-/

namespace CrdCompiler

/-- How one subtree of a schema is resolved: whether the server fills in every property, and how
many structures may be nested. -/
structure Resolver where
  computed : Bool
  maxDepth : Nat := 32
deriving Repr

namespace Resolver

/-- Where a node stands: under a name of its own, or as the values of a map or the items of a
list. -/
inductive Position where
  | property
  | element
deriving DecidableEq, Repr

def enter (resolver : Resolver) (path : SchemaPath) (depth : Nat) : Except CompileError Unit :=
  if resolver.maxDepth ≤ depth then .error (.shape path (.tooDeep resolver.maxDepth)) else .ok ()

def propertyOf (resolver : Resolver) (name : String) (type : TypeDescriptor)
    (children : List Property) (metadata : Metadata) : Property where
  name
  normalizedName := Naming.identifier name
  attributeName := Naming.attributeName name
  description := metadata.description
  type
  required := metadata.required
  optional := !metadata.required
  computed := resolver.computed || metadata.default.isSome
  immutable := metadata.immutable
  default := metadata.default
  validators := metadata.validators
  children

def collectionOf (collection : TypeDescriptor → TypeDescriptor) (fault : ShapeFault)
    (path : SchemaPath) (element : TypeDescriptor × List Property) :
    Except CompileError (TypeDescriptor × List Property) :=
  if element.1.isElement then .ok (collection element.1, element.2) else .error (.shape path fault)

mutual

def typeOf (resolver : Resolver) (position : Position) (path : SchemaPath) (depth : Nat) :
    SchemaNode → Except CompileError (TypeDescriptor × List Property)
  | { type, properties, additionalProperties, items, required, .. } =>
    match type with
    | none => .error (.shape path .untyped)
    | some keyword =>
      match ScalarKind.ofSchemaType? keyword with
      | some kind => .ok (.scalar kind, [])
      | none =>
        if keyword = "object" then
          match additionalProperties with
          | .flag true => .error (.shape path .untypedValues)
          | .schema values =>
            if properties.isEmpty then do
              let element ← resolver.typeOf .element path depth values
              collectionOf .map .nestedValues path element
            else .error (.shape path .fieldsAndValues)
          | _ =>
            if properties.isEmpty then
              match position with
              | .element => .ok (.struct, [])
              | .property => .error (.shape path .noFields)
            else do
              resolver.enter path (depth + 1)
              let children ← resolver.fieldsOf required path (depth + 1) properties
              .ok (.struct, Property.sortSiblings children)
        else if keyword = "array" then
          match items with
          | none => .error (.shape path .noItems)
          | some elements => do
            let element ← resolver.typeOf .element path depth elements
            collectionOf .array .nestedItems path element
        else .error (.shape path (.unknownType keyword))

/-- The properties that named schemas become, in the order of the schemas. The first error wins. -/
def fieldsOf (resolver : Resolver) (required : List String) (path : SchemaPath) (depth : Nat) :
    List (String × SchemaNode) → Except CompileError (List Property)
  | [] => .ok []
  | (name, node) :: rest => do
    let (type, children) ← resolver.typeOf .property (path.child name) depth node
    let metadata ←
      Metadata.derive node (required.contains name) type.scalarKind? (path.child name)
    let others ← resolver.fieldsOf required path depth rest
    .ok (resolver.propertyOf name type children metadata :: others)

end

/-- The named properties of a node, in ascending order of names. -/
def resolveProperties (resolver : Resolver) (node : SchemaNode) (path : SchemaPath) :
    Except CompileError (List Property) := do
  resolver.enter path 0
  let properties ← resolver.fieldsOf node.required path 0 node.properties
  return Property.sortSiblings properties

def resolveType (resolver : Resolver) (node : SchemaNode) (path : SchemaPath) :
    Except CompileError (TypeDescriptor × List Property) :=
  resolver.typeOf .property path 0 node

end Resolver

end CrdCompiler
