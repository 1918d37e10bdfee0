import CrdCompiler.Files.Tree

/-!
Routes of paths. A path is followed piece by piece, from directory to directory. Where a link stands,
the way goes along its target, as seen from the directory of the link, and then on with the pieces
that are left; only so many links may be met on one route.
-/

namespace CrdCompiler.Route

def linkLimit : Nat := 40

/-- To read, everything has to be there. To write, the last name may be missing. To look at what
stands under the last name, a link there is not followed. -/
inductive Purpose where
  | read
  | write
  | look
deriving DecidableEq

inductive Turn where
  | on
  | along (target : FilePath)

def nameTurn? (purpose : Purpose) (name : String) (isLast : Bool) : Option Standing → Option Turn
  | some (.link target) => if purpose = .look ∧ isLast then some .on else some (.along target)
  | some _ => some .on
  | none =>
    if purpose = .write ∧ isLast ∧ name.utf8ByteSize ≤ FilePath.nameByteLimit then some .on else none

/-- The turn at a piece, by what stands at every place; `rest` are the pieces behind. -/
def turn? (stands : List String → Option Standing) (purpose : Purpose) (place : List String)
    (piece : String) (rest : List String) : Option Turn :=
  if stands place ≠ some .directory then none
  else if FilePath.staysPut piece ∨ piece = ".." then some .on
  else nameTurn? purpose piece rest.isEmpty (stands (place ++ [piece]))

def followWith (turn? : List String → String → List String → Option Turn)
    (atLink : FilePath → List String → List String → Option (List String × Nat)) (left : Nat)
    (place : List String) : List String → Option (List String × Nat)
  | [] => some (place, left)
  | piece :: rest =>
    match turn? place piece rest with
    | none => none
    | some .on => followWith turn? atLink left (FilePath.pass place piece) rest
    | some (.along target) => atLink target place rest

/-- The place where pieces end that are followed from a place, and how many links may still be met,
of as many as are left. -/
def follow? (turn? : List String → String → List String → Option Turn) :
    Nat → List String → List String → Option (List String × Nat)
  | 0, place, pieces => followWith turn? (fun _ _ _ => none) 0 place pieces
  | left + 1, place, pieces =>
    followWith turn?
      (fun target place rest => follow? turn? left (target.origin place) (target.pieces ++ rest))
      (left + 1) place pieces

/-- Follows the target of a link that is met in a directory, and the pieces behind. -/
def detour? (turn? : List String → String → List String → Option Turn) (place : List String)
    (target : FilePath) (rest : List String) : Nat → Option (List String × Nat)
  | 0 => none
  | left + 1 => follow? turn? left (target.origin place) (target.pieces ++ rest)

end CrdCompiler.Route
