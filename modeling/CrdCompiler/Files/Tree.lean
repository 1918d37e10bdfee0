import CrdCompiler.Files.Path
import CrdCompiler.Member

/-!
Trees of files. A file holds a text, or bytes that are none; a link holds a path, which means what it
means as seen from the directory of the link. The files of a tree are listed directory by directory,
the members of each in ascending order of names, whatever order the directory itself has them in; a
link is listed as a file, wherever it leads.
-/

namespace CrdCompiler

inductive FileTree where
  | file (text : Option String)
  | directory (members : List (String × FileTree))
  | link (target : FilePath)
deriving Repr

/-- What stands at a place, apart from what is below it. -/
inductive Standing where
  | file (text : Option String)
  | directory
  | link (target : FilePath)
deriving DecidableEq, Repr

namespace FileTree

def standing : FileTree → Standing
  | .file text => .file text
  | .directory _ => .directory
  | .link target => .link target

def at? : FileTree → List String → Option FileTree
  | tree, [] => some tree
  | .directory members, name :: rest => (members.lookup name).bind fun tree => tree.at? rest
  | _, _ :: _ => none

def standing? (tree : FileTree) (place : List String) : Option Standing :=
  (tree.at? place).map standing

/-- Puts a tree at the end of a chain of names, with directories on the way to it. Files and links
stay in the way. -/
def put : FileTree → List String → FileTree → FileTree
  | _, [], placed => placed
  | .directory members, name :: rest, placed =>
    .directory (putMember members name
      (((members.lookup name).getD (.directory [])).put rest placed))
  | tree, _ :: _, _ => tree

def erase : FileTree → List String → FileTree
  | .directory members, [name] => .directory (members.filter (·.1 ≠ name))
  | .directory members, name :: rest =>
    match members.lookup name with
    | some tree => .directory (putMember members name (tree.erase rest))
    | none => .directory members
  | tree, _ => tree

mutual

def files (path : FilePath) : FileTree → List FilePath
  | .file _ | .link _ => [path]
  | .directory members =>
    ((memberFiles path members).mergeSort fun left right => left.1 ≤ right.1).flatMap (·.2)

def memberFiles (path : FilePath) : List (String × FileTree) → List (String × List FilePath)
  | [] => []
  | (name, tree) :: rest => (name, files (path.join ⟨name⟩) tree) :: memberFiles path rest

end

end FileTree

end CrdCompiler
