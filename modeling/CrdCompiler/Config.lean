import CrdCompiler.Files.Path
import CrdCompiler.Text.CharacterClass

/-!
The configuration of a generator: what the provider is called, where schemas are found and documents
go, and what happens when a schema does not compile.

Directories are written as seen from the directory of the configuration file. They are made
absolute as they are read, so that the working directory plays no part afterwards.
-/

namespace CrdCompiler

inductive FailurePolicy where
  | abort
  | skip
deriving DecidableEq, Repr

namespace FailurePolicy

def word : FailurePolicy → String
  | .abort => "abort"
  | .skip => "skip"

def ofWord? (word : String) : Option FailurePolicy :=
  [FailurePolicy.abort, .skip].find? (·.word = word)

def label : FailurePolicy → String
  | .abort => "Abort"
  | .skip => "Skip"

end FailurePolicy

structure Config where
  name : String := ""
  address : String := ""
  moduleName : String := ""
  schemasDir : FilePath := ⟨""⟩
  outputDir : FilePath := ⟨""⟩
  onError : FailurePolicy := .abort
  maxDepth : Nat := 32
deriving DecidableEq, Repr

structure Overrides where
  schemasDir : Option FilePath := none
  outputDir : Option FilePath := none
  onError : Option FailurePolicy := none
deriving DecidableEq, Repr

inductive ConfigFault where
  | noModuleName
  | zeroDepth
deriving DecidableEq, Repr

inductive ConfigError where
  | unreadable (path : FilePath)
  | malformed (path : FilePath)
  | noWorkingDirectory
  | invalid (path : FilePath) (fault : ConfigFault)
deriving DecidableEq, Repr

def ConfigFault.reason : ConfigFault → String
  | .noModuleName => "moduleName must not be empty"
  | .zeroDepth => "maxDepth must be at least 1"

def ConfigError.message : ConfigError → String
  | .unreadable path => "failed to read config '" ++ path.text ++ "'"
  | .malformed path => "failed to parse config '" ++ path.text ++ "'"
  | .noWorkingDirectory => "cannot resolve config directory"
  | .invalid path fault => "invalid config '" ++ path.text ++ "': " ++ fault.reason

namespace Config

def basedAt (config : Config) (base : FilePath) : Config :=
  { config with
    schemasDir := base.join config.schemasDir
    outputDir := base.join config.outputDir }

def override (config : Config) (overrides : Overrides) : Config :=
  { config with
    schemasDir := overrides.schemasDir.getD config.schemasDir
    outputDir := overrides.outputDir.getD config.outputDir
    onError := overrides.onError.getD config.onError }

def fault? (config : Config) : Option ConfigFault :=
  if config.moduleName.toList.all Text.isBlank then some .noModuleName
  else if config.maxDepth = 0 then some .zeroDepth
  else none

end Config

end CrdCompiler
