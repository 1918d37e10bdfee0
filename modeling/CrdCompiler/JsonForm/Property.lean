import CrdCompiler.Property
import CrdCompiler.Reading

/-!
The JSON form of property trees, written and read. A sum type carries the name of its case in a
member of its own: `kind` for literals, `shape` for shapes, `rule` for validation rules.
-/

namespace CrdCompiler

/-- The case of a tagged value, with what is left beside the tag. -/
def Content.tagged? (tag : String) : Content → Option (String × Content)
  | .mapping entries =>
    match entries.partition (·.1 = .name tag) with
    | ([(_, .text case)], rest) => some (case, .mapping rest)
    | _ => none
  | .sequence (.text case :: rest) => some (case, .sequence rest)
  | _ => none

def Content.isUnit : Content → Bool
  | .mapping _ => true
  | .sequence items => items.isEmpty
  | _ => false

namespace ScalarKind

def toJson (kind : ScalarKind) : Json := .string kind.name

def ofContent? : Content → Option ScalarKind
  | .text name => ofName? name
  | _ => none

end ScalarKind

namespace Literal

def toJson (literal : Literal) : Json :=
  .object [("kind", literal.kind.toJson), ("value", literal.toRaw)]

def ofContentAs? (kind : ScalarKind) (content : Content) : Option Literal :=
  match kind, content with
  | .string, .text value => some (.string value)
  | .int64, .integer number => number.toInt64?.map .int64
  | .float64, content => content.toBinary64?.map .float64
  | .bool, .bool value => some (.bool value)
  | _, _ => none

def ofContent? (content : Content) : Option Literal := do
  let fields ← Fields.read ["kind", "value"] content
  let kind ← fields.needed "kind" ScalarKind.ofContent?
  fields.needed "value" (ofContentAs? kind)

end Literal

namespace TypeDescriptor

def toJson : TypeDescriptor → Json
  | .scalar kind => .object [("shape", .string "scalar"), ("kind", kind.toJson)]
  | .map values => .object [("shape", .string "map"), ("value_type", values.toJson)]
  | .struct => .object [("shape", .string "struct")]
  | .array elements => .object [("shape", .string "array"), ("element_type", elements.toJson)]

/-- The descriptor that a content of at most the given depth is. -/
def ofNested? : Nat → Content → Option TypeDescriptor
  | 0, _ => none
  | depth + 1, content => do
    let (shape, rest) ← content.tagged? "shape"
    match shape with
    | "scalar" => do
      let fields ← Fields.read ["kind"] rest
      return .scalar (← fields.needed "kind" ScalarKind.ofContent?)
    | "map" => do
      let fields ← Fields.read ["value_type"] rest
      return .map (← fields.needed "value_type" (ofNested? depth))
    | "struct" => if rest.isUnit then some .struct else none
    | "array" => do
      let fields ← Fields.read ["element_type"] rest
      return .array (← fields.needed "element_type" (ofNested? depth))
    | _ => none

def ofContent? (content : Content) : Option TypeDescriptor :=
  ofNested? content.depth content

end TypeDescriptor

namespace AttributeKind

def toJson : AttributeKind → Json
  | .string => .object [("attribute", .string "string")]
  | .int64 => .object [("attribute", .string "int64")]
  | .float64 => .object [("attribute", .string "float64")]
  | .bool => .object [("attribute", .string "bool")]
  | .map element => .object [("attribute", .string "map"), ("element", element.toJson)]
  | .mapNested => .object [("attribute", .string "map_nested")]
  | .singleNested => .object [("attribute", .string "single_nested")]
  | .list element => .object [("attribute", .string "list"), ("element", element.toJson)]
  | .listNested => .object [("attribute", .string "list_nested")]

end AttributeKind

namespace Constraint

def wordJson (word : UInt64) : Json :=
  .number (.integer (.ofUInt64 word))

def toJson : Constraint → Json
  | .oneOf values =>
    .object [("rule", .string "one_of"), ("values", .array (values.map Literal.toJson))]
  | .lengthAtLeast least => .object [("rule", .string "length_at_least"), ("min", wordJson least)]
  | .lengthAtMost greatest =>
    .object [("rule", .string "length_at_most"), ("max", wordJson greatest)]
  | .regexMatches pattern literal =>
    .object [("rule", .string "regex_matches"), ("pattern", .string pattern),
      ("literal", .string literal)]
  | .base64 => .object [("rule", .string "base64")]
  | .dateTime => .object [("rule", .string "date_time")]
  | .atLeast bound => .object [("rule", .string "at_least"), ("bound", bound.toJson)]
  | .atMost bound => .object [("rule", .string "at_most"), ("bound", bound.toJson)]

def ofContent? (content : Content) : Option Constraint := do
  let (rule, rest) ← content.tagged? "rule"
  match rule with
  | "one_of" => do
    let fields ← Fields.read ["values"] rest
    return .oneOf (← fields.needed "values" (readItems Literal.ofContent?))
  | "length_at_least" => do
    let fields ← Fields.read ["min"] rest
    return .lengthAtLeast (← fields.needed "min" Source.unsigned)
  | "length_at_most" => do
    let fields ← Fields.read ["max"] rest
    return .lengthAtMost (← fields.needed "max" Source.unsigned)
  | "regex_matches" => do
    let fields ← Fields.read ["pattern", "literal"] rest
    return .regexMatches (← fields.needed "pattern" Source.text)
      (← fields.needed "literal" Source.text)
  | "base64" => if rest.isUnit then some .base64 else none
  | "date_time" => if rest.isUnit then some .dateTime else none
  | "at_least" => do
    let fields ← Fields.read ["bound"] rest
    return .atLeast (← fields.needed "bound" Literal.ofContent?)
  | "at_most" => do
    let fields ← Fields.read ["bound"] rest
    return .atMost (← fields.needed "bound" Literal.ofContent?)
  | _ => none

end Constraint

namespace Property

mutual

def toJson : Property → Json
  | { name, normalizedName, attributeName, description, type, required, optional, computed,
      immutable, default, validators, children } =>
    .object ([
      ("name", .string name),
      ("normalizedName", .string normalizedName),
      ("attributeName", .string attributeName),
      ("description", .string description),
      ("type", type.toJson),
      ("required", .bool required),
      ("optional", .bool optional),
      ("computed", .bool computed),
      ("immutable", .bool immutable)] ++
      (default.map fun literal => ("default", literal.toJson)).toList ++
      [("validators", .array (validators.map Constraint.toJson)),
      ("children", .array (listToJson children))])

def listToJson : List Property → List Json
  | [] => []
  | property :: rest => property.toJson :: listToJson rest

end

def fieldNames : List String := [
  "name", "normalizedName", "attributeName", "description", "type", "required", "optional",
  "computed", "immutable", "default", "validators", "children"]

def ofNested? : Nat → Content → Option Property
  | 0, _ => none
  | depth + 1, content => do
    let fields ← Fields.read fieldNames content
    return {
      name := ← fields.needed "name" Source.text
      normalizedName := ← fields.needed "normalizedName" Source.text
      attributeName := ← fields.needed "attributeName" Source.text
      description := ← fields.needed "description" Source.text
      type := ← fields.needed "type" TypeDescriptor.ofContent?
      required := ← fields.needed "required" Source.flag
      optional := ← fields.needed "optional" Source.flag
      computed := ← fields.needed "computed" Source.flag
      immutable := ← fields.needed "immutable" Source.flag
      default := ← fields.get? "default" Literal.ofContent?
      validators := ← fields.getD "validators" [] (readItems Constraint.ofContent?)
      children := ← fields.getD "children" [] (readItems (ofNested? depth)) }

def ofContent? (content : Content) : Option Property :=
  ofNested? content.depth content

end Property

end CrdCompiler
