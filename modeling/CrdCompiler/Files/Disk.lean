import CrdCompiler.Files.Route

/-!
A tree of files with a place in it from which paths are followed.
-/

namespace CrdCompiler

/-- The tree at the root and the names that lead to the working directory. -/
structure Disk where
  tree : FileTree := .directory []
  workingDirectory : List String := []
deriving Repr

namespace Disk

open FilePath Route

def reach? (disk : Disk) (purpose : Purpose) (path : FilePath) : Option (List String) :=
  if path.isUsable then
    (follow? (turn? disk.tree.standing? purpose) linkLimit (path.origin disk.workingDirectory)
      path.pieces).map Prod.fst
  else none

def tree? (disk : Disk) (path : FilePath) : Option FileTree :=
  (disk.reach? .read path).bind disk.tree.at?

def entry? (disk : Disk) (path : FilePath) : Option FileTree :=
  (disk.reach? .look path).bind disk.tree.at?

def readText? (disk : Disk) (path : FilePath) : Option String :=
  match disk.tree? path with
  | some (.file text) => text
  | _ => none

/-- A directory of the name can be made where nothing has it. Pieces behind the name that stay put
ask for the directory itself, and with a dot among them it has to be there before it is made. -/
def mayBeMade (name : String) (rest : List String) : Bool :=
  name.utf8ByteSize ≤ nameByteLimit && !(rest.all staysPut && rest.contains ".")

/-- Makes the directories on the way that are not there, with so many links left to be met; the flag
tells whether the way is free. -/
def makeWay (tree : FileTree) (left : Nat) (place : List String) : List String → FileTree × Bool
  | [] => (tree, tree.standing? place = some .directory)
  | piece :: rest =>
    match turn? tree.standing? .read place piece rest with
    | some .on => makeWay tree left (FilePath.pass place piece) rest
    | some (.along target) =>
      match detour? (turn? tree.standing? .read) place target [] left with
      | some (reached, left) => makeWay tree left reached rest
      | none => (tree, false)
    | none =>
      if tree.standing? place = some .directory ∧ tree.standing? (place ++ [piece]) = none ∧
          mayBeMade piece rest then
        makeWay (tree.put (place ++ [piece]) (.directory [])) left (place ++ [piece]) rest
      else (tree, false)

/-- Makes the directory at a path and those around it. The empty path needs none. -/
def createDirectories (disk : Disk) (path : FilePath) : Disk × Bool :=
  if path.text.isEmpty then (disk, true)
  else if path.isUsable then
    let (tree, done) := makeWay disk.tree linkLimit (path.origin disk.workingDirectory) path.pieces
    ({ disk with tree }, done)
  else (disk, false)

/-- Where a text written to a path goes: to a file, or where nothing is. -/
def target? (disk : Disk) (path : FilePath) : Option (List String) := do
  let place ← disk.reach? .write path
  match disk.tree.standing? place with
  | none | some (.file _) => some place
  | _ => none

def writeText (disk : Disk) (path : FilePath) (text : String) : Disk × Bool :=
  match disk.target? path with
  | some place => ({ disk with tree := disk.tree.put place (.file (some text)) }, true)
  | none => (disk, false)

end Disk

end CrdCompiler
