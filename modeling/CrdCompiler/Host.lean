import CrdCompiler.Files.Tree
import CrdCompiler.Log

/-!
What a run needs from its surroundings: files to read and write, and a place to print to.
-/

namespace CrdCompiler

class Host (m : Type → Type) where
  workingDirectory? : m (Option FilePath)
  readText? : FilePath → m (Option String)
  tree? : FilePath → m (Option FileTree)
  entry? : FilePath → m (Option FileTree)
  createDirectories : FilePath → m Bool
  writeText : FilePath → String → m Bool
  print : String → m Unit

namespace Host

variable {m : Type → Type} [Monad m] [Host m]

def log (verbosity : Verbosity) (entry : LogEntry) : m Unit :=
  if entry.isShown verbosity then print entry.text else pure ()

end Host

end CrdCompiler
