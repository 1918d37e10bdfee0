import CrdCompiler.Reading
import CrdCompiler.Schema.Definition

/-!
Reading schemas and resource definitions from any source, and the JSON form of both.

A schema under `additionalProperties` is read apart from its surroundings: first as untyped content,
which may be a flag, and then as a schema from that content.
-/

namespace CrdCompiler

namespace SchemaNode

/-- The keywords of a node, in the order in which a sequence gives them. -/
def keywords : List String := [
  "type", "properties", "additionalProperties", "items", "required", "description", "default",
  "enum", "minimum", "maximum", "exclusiveMinimum", "exclusiveMaximum", "minLength", "maxLength",
  "pattern", "format"]

section

variable {m : Type → Type} [Monad m] [MonadExceptOf Unit m] [Source m σ]

def readWith (node : σ → m SchemaNode) (values : σ → m (AdditionalProperties SchemaNode))
    (source : σ) : m SchemaNode := do
  let fields ← Fields.read (m := m) keywords source
  return {
    type := ← fields.get? "type" Source.text
    properties := ← fields.getD "properties" [] (readMembers node)
    additionalProperties := (← fields.get? "additionalProperties" values).getD .absent
    items := ← fields.get? "items" node
    required := ← fields.getD "required" [] (readItems Source.text)
    description := ← fields.get? "description" Source.text
    default := ← fields.get? "default" Source.raw
    enum := ← fields.getD "enum" [] (readItems Source.raw)
    minimum := ← fields.get? "minimum" Source.number
    maximum := ← fields.get? "maximum" Source.number
    exclusiveMinimum := ← fields.getD "exclusiveMinimum" false Source.flag
    exclusiveMaximum := ← fields.getD "exclusiveMaximum" false Source.flag
    minLength := ← fields.get? "minLength" Source.unsigned
    maxLength := ← fields.get? "maxLength" Source.unsigned
    pattern := ← fields.get? "pattern" Source.text
    format := ← fields.get? "format" Source.text }

end

def valuesOf? (node : Content → Option SchemaNode) :
    Content → Option (AdditionalProperties SchemaNode)
  | .bool allowed => some (.flag allowed)
  | content => .schema <$> node content

def ofNested? : Nat → Content → Option SchemaNode
  | 0 => fun _ => none
  | depth + 1 => readWith (ofNested? depth) (valuesOf? (ofNested? depth))

def ofContent? (content : Content) : Option SchemaNode :=
  ofNested? content.depth content

def valuesOfContent? (content : Content) : Option (AdditionalProperties SchemaNode) :=
  valuesOf? ofContent? content

def member (name : String) (value : Option Json) : List (String × Json) :=
  (value.map (name, ·)).toList

def nonempty (values : List α) (toJson : List α → Json) : Option Json :=
  if values.isEmpty then none else some (toJson values)

mutual

/-- The JSON form of a node: keywords that say nothing are left out, save the two flags. -/
def toJson : SchemaNode → Json
  | { type, properties, additionalProperties, items, required, description, default, enum, minimum,
      maximum, exclusiveMinimum, exclusiveMaximum, minLength, maxLength, pattern, format } =>
    let word (word : UInt64) : Json := .number (.integer (.ofUInt64 word))
    let values :=
      match additionalProperties with
      | .absent => none
      | .flag allowed => some (.bool allowed)
      | .schema node => some node.toJson
    let elements :=
      match items with
      | none => none
      | some node => some node.toJson
    .object (
      member "type" (type.map .string) ++
      member "properties" (nonempty (membersToJson properties) .object) ++
      member "additionalProperties" values ++
      member "items" elements ++
      member "required" (nonempty required fun names => .array (names.map .string)) ++
      member "description" (description.map .string) ++
      member "default" default ++
      member "enum" (nonempty enum .array) ++
      member "minimum" (minimum.map .ofBinary64) ++
      member "maximum" (maximum.map .ofBinary64) ++
      [("exclusiveMinimum", .bool exclusiveMinimum),
        ("exclusiveMaximum", .bool exclusiveMaximum)] ++
      member "minLength" (minLength.map word) ++
      member "maxLength" (maxLength.map word) ++
      member "pattern" (pattern.map .string) ++
      member "format" (format.map .string))

def membersToJson : List (String × SchemaNode) → List (String × Json)
  | [] => []
  | (name, node) :: rest => (name, node.toJson) :: membersToJson rest

end

end SchemaNode

namespace CustomResourceDefinition

section

variable {m : Type → Type} [Monad m] [MonadExceptOf Unit m] [Source m σ]

def readNames (source : σ) : m ResourceNames := do
  let fields ← Fields.read (m := m) ["kind", "plural"] source
  return ⟨← fields.needed "kind" Source.text, ← fields.needed "plural" Source.text⟩

def readValidation (node : σ → m SchemaNode) (source : σ) : m SchemaNode := do
  let fields ← Fields.read (m := m) ["openAPIV3Schema"] source
  fields.needed "openAPIV3Schema" node

def readVersion (node : σ → m SchemaNode) (source : σ) : m ResourceVersion := do
  let fields ← Fields.read (m := m) ["name", "schema"] source
  return ⟨← fields.needed "name" Source.text, ← fields.get? "schema" (readValidation node)⟩

def readSpec (node : σ → m SchemaNode) (source : σ) :
    m (String × ResourceNames × List ResourceVersion) := do
  let fields ← Fields.read (m := m) ["group", "names", "versions"] source
  return (← fields.needed "group" Source.text, ← fields.needed "names" readNames,
    ← fields.getD "versions" [] (readItems (readVersion node)))

def readWith (node : σ → m SchemaNode) (source : σ) : m CustomResourceDefinition := do
  let fields ← Fields.read (m := m) ["apiVersion", "kind", "spec"] source
  let apiVersion ← fields.get? "apiVersion" Source.text
  let kind ← fields.get? "kind" Source.text
  let (group, names, versions) ← fields.needed "spec" (readSpec node)
  return { apiVersion, kind, group, names, versions }

end

def ofContent? (content : Content) : Option CustomResourceDefinition :=
  readWith SchemaNode.ofContent? content

def toJson (definition : CustomResourceDefinition) : Json :=
  .object [
    ("apiVersion", .ofOption .string definition.apiVersion),
    ("kind", .ofOption .string definition.kind),
    ("spec", .object [
      ("group", .string definition.group),
      ("names", .object [
        ("kind", .string definition.names.kind),
        ("plural", .string definition.names.plural)]),
      ("versions", .array (definition.versions.map fun version => .object [
        ("name", .string version.name),
        ("schema", .ofOption (fun node => .object [("openAPIV3Schema", node.toJson)])
          version.schema)]))])]

end CustomResourceDefinition

end CrdCompiler
