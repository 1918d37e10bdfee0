import CrdCompiler.Manifest
import CrdCompiler.Proofs.JsonContent
import CrdCompiler.Proofs.JsonTexts

/-! # Texts of written files

What a reader of JSON finds in the files of a run: the manifest says what it was made of, and the
file of a document says the name of the module and all that the document is.
-/

namespace CrdCompiler

open Json

theorem Manifest.everyNumber_toJson (holds : JsonNumber → Prop) (manifest : Manifest) :
    manifest.toJson.EveryNumber holds := by
  have packages : ∀ item ∈ manifest.packages.map Json.string, item.EveryNumber holds := by
    intro item listed
    rcases List.mem_map.mp listed with ⟨package, _, rfl⟩
    exact .string package
  exact .object (List.forall_mem_cons.mpr ⟨.string _, List.forall_mem_cons.mpr ⟨.string _,
    List.forall_mem_cons.mpr ⟨.string _, List.forall_mem_singleton.mpr (.array packages)⟩⟩⟩)

theorem Manifest.parse?_text (manifest : Manifest) :
    parse? manifest.text = some (.mapping [
      (.name "moduleName", .text manifest.moduleName),
      (.name "providerName", .text manifest.providerName),
      (.name "address", .text manifest.address),
      (.name "packages", .sequence (manifest.packages.map .text))]) := by
  have packages : Content.itemsOfJson (manifest.packages.map .string) =
      manifest.packages.map .text := by
    rw [Content.itemsOfJson_eq_map, List.map_map]
    rfl
  rw [text, parse?_pretty (manifest.everyNumber_toJson _), toJson]
  simp only [Content.ofJson, Content.entriesOfJson, packages]

/-- What the file of a document says. -/
def Document.fileForm (document : Document) (moduleName : String) : Json :=
  .object [
    ("moduleName", .string moduleName),
    ("document", .object [
      ("group", .string document.group),
      ("version", .string document.version),
      ("kind", .string document.kind),
      ("resourceName", .string document.resourceName),
      ("resourceNamePlural", .string document.resourceNamePlural),
      ("packageIdentifier", .string document.packageIdentifier),
      ("specProperties", .array (Property.listToJson document.specProperties)),
      ("statusProperties", .array (Property.listToJson document.statusProperties)),
      ("helpers", .object [
        ("defaultsString", .bool document.helpers.defaultsString),
        ("defaultsInt64", .bool document.helpers.defaultsInt64),
        ("defaultsFloat64", .bool document.helpers.defaultsFloat64),
        ("defaultsBool", .bool document.helpers.defaultsBool),
        ("validatorString", .bool document.helpers.validatorString),
        ("validatorInt64", .bool document.helpers.validatorInt64),
        ("validatorFloat64", .bool document.helpers.validatorFloat64),
        ("validatorBool", .bool document.helpers.validatorBool),
        ("validatorBase64", .bool document.helpers.validatorBase64),
        ("validatorDateTime", .bool document.helpers.validatorDateTime)])])]

theorem Document.parseExactly?_fileText (document : Document) (moduleName : String) :
    parseExactly? (document.fileText moduleName) =
      some (.ofJson (document.fileForm moduleName)) :=
  parseExactly?_pretty (document.fileForm moduleName)

end CrdCompiler
