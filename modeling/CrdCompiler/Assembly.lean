import CrdCompiler.Document
import CrdCompiler.Resolver
import CrdCompiler.Schema.Definition

/-!
From a resource definition to a document. Only the first version counts. Its schema has two
subtrees, `spec`, which users fill in, and `status`, which the server computes; the fields that
composite resources carry by injection are left out of both.
-/

namespace CrdCompiler

namespace Assembly

def injectedSpecFields : List String := [
  "compositeDeletePolicy", "compositionRef", "compositionRevisionRef",
  "compositionRevisionSelector", "compositionSelector", "compositionUpdatePolicy",
  "publishConnectionDetailsTo", "resourceRef", "writeConnectionSecretToRef"]

def injectedStatusFields : List String := ["connectionDetails", "conditions"]

def specPath : SchemaPath := .root "spec"

def statusPath : SchemaPath := .root "status"

def versionsPath : SchemaPath := specPath.child "versions"

def require (found : Option α) (path : SchemaPath) (fault : ShapeFault) : Except CompileError α :=
  match found with
  | some value => .ok value
  | none => .error (.shape path fault)

/-- A subtree is an object described by its properties alone. -/
def checkRoot (node : SchemaNode) (path : SchemaPath) : Except CompileError Unit :=
  match node.type with
  | none => .error (.shape path .untyped)
  | some keyword =>
    if keyword = "object" then do
      match ← node.valueSchema? path with
      | some _ =>
        .error (.shape path (if node.properties.isEmpty then .rootIsMap else .fieldsAndValues))
      | none => .ok ()
    else .error (.shape path (.rootNotObject keyword))

def subtrees (version : ResourceVersion) : Except CompileError (SchemaNode × SchemaNode) := do
  let schema ← require version.schema ((versionsPath.child version.name).child "schema") .noSchema
  let spec ← require (schema.property? "spec") specPath .noSpec
  let status ← require (schema.property? "status") statusPath .noStatus
  checkRoot spec specPath
  checkRoot status statusPath
  return (spec.withoutProperties injectedSpecFields, status.withoutProperties injectedStatusFields)

def document (definition : CustomResourceDefinition) (version : ResourceVersion)
    (specProperties statusProperties : List Property) : Document where
  group := definition.group
  version := version.name
  kind := definition.names.kind
  resourceName := Text.lowercase definition.names.kind
  resourceNamePlural := definition.names.plural
  packageIdentifier :=
    Document.packageIdentifierFor definition.group definition.names.kind version.name
  specProperties
  statusProperties
  helpers := HelperSet.collect [specProperties, statusProperties]

end Assembly

open Assembly in
def assemble (definition : CustomResourceDefinition) (maxDepth : Nat := 32) :
    Except CompileError Document := do
  let version ← require definition.versions.head? versionsPath .noVersions
  let (spec, status) ← subtrees version
  let specProperties ← Resolver.resolveProperties ⟨false, maxDepth⟩ spec specPath
  let statusProperties ← Resolver.resolveProperties ⟨true, maxDepth⟩ status statusPath
  return document definition version specProperties statusProperties

end CrdCompiler
