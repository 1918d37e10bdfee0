import CrdCompiler.Program

/-!
The program on a machine with files. Directories are looked at as trees whose texts are read later,
one by one, and whose links are followed by the machine itself.
-/

namespace CrdCompiler.Machine

def attempt (action : IO α) : IO (Option α) := do
  try return some (← action) catch _ => return none

def depthLimit : Nat := 4096

def directoryAt : Nat → String → IO FileTree
  | 0, _ => throw (IO.userError "directories nested too deep")
  | depth + 1, path => do
    let place := (← IO.currentDir) / path
    let mut members := []
    for entry in ← place.readDir do
      let tree ←
        match (← entry.path.symlinkMetadata).type with
        | .dir => directoryAt depth entry.path.toString
        | .symlink => pure (FileTree.link ⟨""⟩)
        | _ => pure (FileTree.file none)
      members := (entry.fileName, tree) :: members
    return .directory members

def treeAs (path : String) : IO.FS.FileType → IO FileTree
  | .dir => directoryAt depthLimit path
  | .symlink => return .link ⟨""⟩
  | _ => return .file none

def treeAt (path : String) : IO FileTree := do
  if path.isEmpty then throw (IO.userError "empty path")
  let place := (← IO.currentDir) / path
  treeAs path (← place.metadata).type

def entryAt (path : String) : IO FileTree := do
  if path.isEmpty then throw (IO.userError "empty path")
  let place := (← IO.currentDir) / path
  treeAs path (← place.symlinkMetadata).type

instance : Host IO where
  workingDirectory? := do return (← attempt IO.currentDir).map fun place => ⟨place.toString⟩
  readText? path := attempt (IO.FS.readFile path.text)
  tree? path := attempt (treeAt path.text)
  entry? path := attempt (entryAt path.text)
  createDirectories path := do
    if path.text.isEmpty then return true
    return (← attempt (IO.FS.createDirAll path.text)).isSome
  writeText path text := do
    return (← attempt (IO.FS.writeFile path.text text)).isSome
  print text := IO.println text

end CrdCompiler.Machine

def main (arguments : List String) : IO UInt32 := do
  let exitCode ← CrdCompiler.Program.run (m := IO) arguments
  if exitCode = CrdCompiler.Program.usageExitCode then
    IO.eprintln CrdCompiler.Program.usageLine
  return exitCode.toUInt32
