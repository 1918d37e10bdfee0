import CrdCompiler.Files.Disk
import CrdCompiler.Host

/-!
A session has all that a run needs as a value: files, and the texts printed so far. Whatever holds
of runs in a session is a statement about values.
-/

namespace CrdCompiler

/-- Files, and the texts printed in order. -/
structure Session where
  disk : Disk := {}
  printed : List String := []
deriving Repr

namespace Session

def update (change : Disk → Disk × α) : StateM Session α := fun session =>
  let (disk, answer) := change session.disk
  (answer, { session with disk })

instance : Host (StateM Session) where
  workingDirectory? := fun session =>
    (some ⟨"/" ++ (FilePath.ofPieces session.disk.workingDirectory).text⟩, session)
  readText? path := fun session => (session.disk.readText? path, session)
  tree? path := fun session => (session.disk.tree? path, session)
  entry? path := fun session => (session.disk.entry? path, session)
  createDirectories path := update (·.createDirectories path)
  writeText path text := update (·.writeText path text)
  print text := fun session => ((), { session with printed := session.printed ++ [text] })

end Session

end CrdCompiler
