import CrdCompiler.CommandLine
import CrdCompiler.Generation

/-!
The whole program: from arguments to an exit code.
-/

namespace CrdCompiler.Program

def versionLine : String := "tfpgen 0.1.0"

def usageLine : String :=
  "Usage: tfpgen [-v] [--config FILE] generate|inspect [OPTIONS]"

def usageExitCode : Nat := 2

variable {m : Type → Type} [Monad m] [Host m]

/-- Warnings are always shown, and one level more for each time that more is asked for. -/
def verbosityOf (invocation : Invocation) : Verbosity :=
  LogLevel.rank .warn + invocation.verbose

def execute (invocation : Invocation) : Generation.Step m Nat :=
  match invocation.command with
  | .generate overrides =>
    Generation.run overrides invocation.config (verbosityOf invocation)
  | .inspect file maxDepth compact =>
    Inspection.run file maxDepth compact (verbosityOf invocation)

def run (arguments : List String) : m Nat := do
  match CommandLine.parse arguments with
  | .error .usage => return usageExitCode
  | .error .version => do
    Host.print versionLine
    return 0
  | .error .help => do
    Host.print usageLine
    return 0
  | .ok invocation => do
    let verbosity := verbosityOf invocation
    Host.log verbosity {
      level := .debug, message := "tfpgen starting", values := [("config", invocation.config.text)] }
    match ← (execute invocation).run with
    | .ok exitCode => return exitCode
    | .error error => do
      Host.log verbosity { level := .error, message := error.message }
      return 1

end CrdCompiler.Program
