import CrdCompiler.Files.Path
import CrdCompiler.JsonForm.Document

/-!
The files that a run leaves behind: one for each document, and the manifest, which lists the packages
of the run in the order of their first files.
-/

namespace CrdCompiler

structure Manifest where
  moduleName : String
  providerName : String
  address : String
  packages : List String
deriving DecidableEq, Repr

namespace Manifest

def toJson (manifest : Manifest) : Json :=
  .object [
    ("moduleName", .string manifest.moduleName),
    ("providerName", .string manifest.providerName),
    ("address", .string manifest.address),
    ("packages", .array (manifest.packages.map .string))]

def path (outputDir : FilePath) : FilePath :=
  outputDir.join ⟨"packages.json"⟩

def text (manifest : Manifest) : String :=
  manifest.toJson.pretty "" ++ "\n"

end Manifest

namespace Document

def directory (outputDir : FilePath) (packageIdentifier : String) : FilePath :=
  outputDir.join ⟨packageIdentifier⟩

def path (outputDir : FilePath) (packageIdentifier : String) : FilePath :=
  (directory outputDir packageIdentifier).join ⟨"document.json"⟩

def fileText (document : Document) (moduleName : String) : String :=
  (Json.object [("moduleName", .string moduleName), ("document", document.toJson)]).pretty "" ++ "\n"

end Document

end CrdCompiler
