import CrdCompiler.Config
import CrdCompiler.Host
import CrdCompiler.Yaml.Reading

/-!
Reading configurations from files. The first document of the file is the configuration, and an empty
file is one without settings.
-/

namespace CrdCompiler

namespace FailurePolicy

open Yaml in
/-- A policy is a word, or a tag of that name on a null. -/
def atPlace (place : Place) : Reader FailurePolicy := do
  match (← place.follow).node with
  | .scalar _ tag style text =>
    if Scalar.isLocal tag then
      if style = .plain ∧ (text.isEmpty ∨ Scalar.isNull text) then
        Fields.lift (ofWord? ((tag.getD "").drop 1).toString)
      else failure
    else Fields.lift (ofWord? text)
  | _ => failure

end FailurePolicy

namespace Config

open Yaml in
def atPlace (place : Place) : Reader Config := do
  let fields ← Fields.read (m := Reader)
    ["name", "address", "moduleName", "schemasDir", "outputDir", "onError", "maxDepth"] place
  return {
    name := ← fields.getD "name" "" Source.text
    address := ← fields.getD "address" "" Source.text
    moduleName := ← fields.getD "moduleName" "" Source.text
    schemasDir := ← fields.getD "schemasDir" ⟨""⟩ fun place => FilePath.mk <$> Source.text place
    outputDir := ← fields.getD "outputDir" ⟨""⟩ fun place => FilePath.mk <$> Source.text place
    onError := ← fields.getD "onError" .abort FailurePolicy.atPlace
    maxDepth := ← fields.getD "maxDepth" 32 fun place => UInt64.toNat <$> Source.unsigned place }

def ofText? (text : String) : Option Config := do
  (← Yaml.Document.firstOfText? text).decode atPlace

def ofFileText (path : FilePath) (text : String) (workingDirectory? : Option FilePath) :
    Except ConfigError Config := do
  let config ← (ofText? text).elim (.error (.malformed path)) .ok
  let directory := path.parent?.getD ⟨""⟩
  let base ←
    if directory.isAbsolute then .ok directory
    else workingDirectory?.elim (.error .noWorkingDirectory) fun here => .ok (here.join directory)
  let config := config.basedAt base
  match config.fault? with
  | some fault => .error (.invalid path fault)
  | none => .ok config

def load {m : Type → Type} [Monad m] [Host m] (path : FilePath) : m (Except ConfigError Config) := do
  match ← Host.readText? path with
  | none => return .error (.unreadable path)
  | some text => return ofFileText path text (← Host.workingDirectory?)

end Config

end CrdCompiler
