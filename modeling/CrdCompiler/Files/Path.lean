/-!
Paths of files as they are written. Paths are put together and taken apart as texts; nothing is
tidied up, so a path says where it came from. The pieces of a path are what stands between its
slashes; an empty piece and a single dot lead nowhere.
-/

namespace CrdCompiler

structure FilePath where
  text : String
deriving DecidableEq, Repr

namespace FilePath

def splitAtSlashes : List Char → List (List Char)
  | [] => [[]]
  | character :: rest =>
    if character = '/' then [] :: splitAtSlashes rest
    else
      match splitAtSlashes rest with
      | [] => [[character]]
      | first :: others => (character :: first) :: others

def pieces (path : FilePath) : List String :=
  (splitAtSlashes path.text.toList).map String.ofList

def ofPieces (pieces : List String) : FilePath :=
  ⟨String.intercalate "/" pieces⟩

def staysPut (piece : String) : Bool :=
  piece = "" || piece = "."

def isAbsolute (path : FilePath) : Bool :=
  path.text.toList.head? = some '/'

def origin (path : FilePath) (home : List String) : List String :=
  if path.isAbsolute then [] else home

/-- One piece further from a place; the root is the directory around itself. -/
def pass (place : List String) (piece : String) : List String :=
  if staysPut piece then place
  else if piece = ".." then place.dropLast
  else place ++ [piece]

/-- The second path as seen from the first, which an absolute path replaces. -/
def join (base path : FilePath) : FilePath :=
  if path.isAbsolute then path
  else if base.text.isEmpty || base.text.toList.getLast? = some '/' then ⟨base.text ++ path.text⟩
  else ⟨base.text ++ "/" ++ path.text⟩

def piecesBeforeLast? (pieces : List String) : Option (List String) :=
  match pieces.reverse.dropWhile staysPut with
  | [] => none
  | _ :: before => some (before.dropWhile staysPut).reverse

/-- The directory that a path puts its last name in. The root and the empty path have none; a path
of one name has the empty path. -/
def parent? (path : FilePath) : Option FilePath :=
  match path.pieces with
  | "" :: first :: rest =>
    (piecesBeforeLast? (first :: rest)).map fun before => ⟨"/" ++ (ofPieces before).text⟩
  | "." :: rest =>
    match piecesBeforeLast? rest with
    | none => some ⟨""⟩
    | some before => some (ofPieces ("." :: before))
  | pieces => (piecesBeforeLast? pieces).map ofPieces

def byteLimit : Nat := 4095

def nameByteLimit : Nat := 255

def isUsable (path : FilePath) : Bool :=
  !path.text.isEmpty && path.text.utf8ByteSize ≤ byteLimit && !path.text.toList.contains '\x00'

end FilePath

end CrdCompiler
