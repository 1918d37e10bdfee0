import CrdCompiler.CompileError
import CrdCompiler.Document
import CrdCompiler.JsonForm.Property

/-!
The JSON form of documents and helper summaries.
-/

namespace CrdCompiler

def HelperSet.toJson (helpers : HelperSet) : Json :=
  .object [
    ("defaultsString", .bool helpers.defaultsString),
    ("defaultsInt64", .bool helpers.defaultsInt64),
    ("defaultsFloat64", .bool helpers.defaultsFloat64),
    ("defaultsBool", .bool helpers.defaultsBool),
    ("validatorString", .bool helpers.validatorString),
    ("validatorInt64", .bool helpers.validatorInt64),
    ("validatorFloat64", .bool helpers.validatorFloat64),
    ("validatorBool", .bool helpers.validatorBool),
    ("validatorBase64", .bool helpers.validatorBase64),
    ("validatorDateTime", .bool helpers.validatorDateTime)]

def Document.toJson (document : Document) : Json :=
  .object [
    ("group", .string document.group),
    ("version", .string document.version),
    ("kind", .string document.kind),
    ("resourceName", .string document.resourceName),
    ("resourceNamePlural", .string document.resourceNamePlural),
    ("packageIdentifier", .string document.packageIdentifier),
    ("specProperties", .array (Property.listToJson document.specProperties)),
    ("statusProperties", .array (Property.listToJson document.statusProperties)),
    ("helpers", document.helpers.toJson)]

def SchemaPath.toJson (path : SchemaPath) : Json :=
  .array (path.segments.map .string)

end CrdCompiler
