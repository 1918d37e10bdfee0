import CrdCompiler.Compile
import CrdCompiler.Config.Reading
import CrdCompiler.Manifest
import CrdCompiler.Notice

/-!
Runs of the program. `generate` compiles every file below the schemas directory and writes a document
for each package and a manifest of all; `inspect` compiles one file and prints its document.

Files are compiled in the order in which the tree lists them, each as it is when its turn comes. A
schema that does not compile is put on record; the policy decides whether the run goes on. A run that
stops there writes no manifest. A file that cannot be written ends the run at once.
-/

namespace CrdCompiler

inductive CommandError where
  | config (error : ConfigError)
  | compile (error : CompileError)
  | walking (path : FilePath)
  | creating (path : FilePath)
  | writing (path : FilePath)
  | zeroDepth
deriving Repr

def CommandError.message : CommandError → String
  | .config error => error.message
  | .compile error => error.message
  | .walking path => "walking " ++ path.text
  | .creating path => "creating " ++ path.text
  | .writing path => "writing " ++ path.text
  | .zeroDepth => "--max-depth must be at least 1"

structure Report where
  files : Nat
  /-- The packages written, each once, in the order of their first files. -/
  packages : List String := []
  failures : List (FilePath × CompileError) := []
  aborted : Bool := false
deriving Repr

namespace Report

def exitCode (report : Report) : Nat :=
  if report.failures.isEmpty then 0 else 1

def lines (report : Report) (outputDir : FilePath) : List String :=
  [s!"Compiled {report.packages.length} of {report.files} schema file(s) into " ++ outputDir.text] ++
    (if report.failures.isEmpty then []
      else s!"{report.failures.length} file(s) failed:" ::
        report.failures.map fun (file, error) => "  " ++ file.text ++ ": " ++ error.message) ++
    (if report.aborted then ["Stopped at the first failure; no manifest written."] else [])

end Report

namespace Generation

variable {m : Type → Type} [Monad m] [Host m]

abbrev Step (m : Type → Type) (α : Type) := ExceptT CommandError m α

def log (verbosity : Verbosity) (entry : LogEntry) : Step m Unit :=
  ExceptT.lift (Host.log verbosity entry)

def print (text : String) : Step m Unit :=
  ExceptT.lift (Host.print text)

def insist (action : m Bool) (error : CommandError) : Step m Unit := do
  unless ← ExceptT.lift action do throw error

def createDirectories (path : FilePath) : Step m Unit :=
  insist (Host.createDirectories path) (.creating path)

def writeText (path : FilePath) (text : String) : Step m Unit :=
  insist (Host.writeText path text) (.writing path)

/-- The files below a directory, by the tree that its path leads to and what stands under the last
name. Where this is a link, it comes first itself. -/
def filesFrom (directory : FilePath) : FileTree → FileTree → List FilePath
  | .directory members, .link _ => directory :: (FileTree.directory members).files directory
  | tree, _ => tree.files directory

def schemaFiles (directory : FilePath) : Step m (List FilePath) := do
  match ← ExceptT.lift (Host.tree? directory), ← ExceptT.lift (Host.entry? directory) with
  | some tree, some entry => return filesFrom directory tree entry
  | _, _ => throw (.walking directory)

def compileFile (path : FilePath) (maxDepth : Nat) (verbosity : Verbosity) :
    Step m (Except CompileError Document) := do
  match ← ExceptT.lift (Host.readText? path) with
  | none => return .error (.unreadable path.text .unreadable)
  | some text =>
    match readDefinition text path.text with
    | .error error => return .error error
    | .ok definition =>
      (Assembly.notices definition maxDepth).forM fun notice => log verbosity notice.logEntry
      return assemble definition maxDepth

def writeDocument (config : Config) (document : Document) (verbosity : Verbosity) :
    Step m Unit := do
  createDirectories (Document.directory config.outputDir document.packageIdentifier)
  let path := Document.path config.outputDir document.packageIdentifier
  writeText path (document.fileText config.moduleName)
  log verbosity { level := .debug, message := "wrote document", values := [("path", path.text)] }

def recordPackage (report : Report) (package : String) (file : FilePath) (verbosity : Verbosity) :
    Step m Report := do
  if report.packages.contains package then
    log verbosity {
      level := .warn
      message := "package generated twice; the later file wins"
      values := [("package", package), ("path", file.text)] }
    return report
  else return { report with packages := report.packages ++ [package] }

def compileFiles (config : Config) (verbosity : Verbosity) :
    List FilePath → Report → Step m Report
  | [], report => return report
  | file :: rest, report => do
    log verbosity {
      level := .info, message := "compiling schema", values := [("path", file.text)] }
    match ← compileFile file config.maxDepth verbosity with
    | .error error =>
      log verbosity {
        level := .error
        message := error.message
        values := [("path", file.text), ("kind", Text.quoted error.kind)] }
      let report := { report with failures := report.failures ++ [(file, error)] }
      match config.onError with
      | .abort => return { report with aborted := true }
      | .skip => compileFiles config verbosity rest report
    | .ok document =>
      writeDocument config document verbosity
      let report ← recordPackage report document.packageIdentifier file verbosity
      compileFiles config verbosity rest report

def manifestOf (config : Config) (packages : List String) : Manifest where
  moduleName := config.moduleName
  providerName := config.name
  address := config.address
  packages

def generate (config : Config) (verbosity : Verbosity) : Step m Report := do
  let files ← schemaFiles config.schemasDir
  createDirectories config.outputDir
  let report ← compileFiles config verbosity files { files := files.length }
  unless report.aborted do
    writeText (Manifest.path config.outputDir) (manifestOf config report.packages).text
  return report

def run (overrides : Overrides) (configPath : FilePath) (verbosity : Verbosity) : Step m Nat := do
  match ← ExceptT.lift (Config.load configPath) with
  | .error error => throw (.config error)
  | .ok loaded =>
    let config := loaded.override overrides
    log verbosity {
      level := .info
      message := "generating provider documents"
      values := [("schemas_dir", config.schemasDir.text), ("output_dir", config.outputDir.text),
        ("on_error", config.onError.label)] }
    let report ← generate config verbosity
    (report.lines config.outputDir).forM print
    return report.exitCode

end Generation

namespace Inspection

open Generation

def run {m : Type → Type} [Monad m] [Host m] (file : FilePath) (maxDepth : Nat) (compact : Bool)
    (verbosity : Verbosity) : Step m Nat := do
  if maxDepth = 0 then throw .zeroDepth
  match ← compileFile file maxDepth verbosity with
  | .error error => throw (.compile error)
  | .ok document =>
    print (if compact then document.toJson.compact else document.toJson.pretty "")
    return 0

end Inspection

end CrdCompiler
