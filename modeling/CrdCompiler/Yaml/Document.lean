import CrdCompiler.Yaml.Composition
import CrdCompiler.Yaml.TokenStream

/-!
Documents with their references settled. Each anchor gets as its number how many names were
anchored before it, a name that is anchored again keeping its one place in that count; so two
anchors can come to share a number, and the later one has it. References look up the number that
their name has at that point, and the node that has it in the end.
-/

namespace CrdCompiler.Yaml

/-- A document whose references are numbers, with the nodes that have them. -/
structure Document where
  root : Node Nat
  anchors : List (Nat × Node Nat)
deriving Repr

namespace Document

abbrev Numbering := List (String × Nat)

def numbered (numbering : Numbering) : Option String → Numbering × Option Nat
  | none => (numbering, none)
  | some name =>
    let number := numbering.length
    ((name, number) :: numbering.filter (·.1 ≠ name), some number)

def noted (number : Option Nat) (node : Node Nat) (inner : List (Nat × Node Nat)) :
    List (Nat × Node Nat) :=
  (number.map (·, node)).toList ++ inner

/-- A part of a document with its references settled, the numbering after it, and the anchored
nodes in it in the order in which they begin. -/
abbrev Settled (α : Type) := α × Numbering × List (Nat × Node Nat)

mutual

def settle? (numbering : Numbering) : Node String → Option (Settled (Node Nat))
  | .reference name => do
    return (.reference (← numbering.lookup name), numbering, [])
  | .scalar anchor tag style text =>
    let (numbering, number) := numbered numbering anchor
    let node := Node.scalar anchor tag style text
    some (node, numbering, noted number node [])
  | .sequence anchor tag items => do
    let (numbering, number) := numbered numbering anchor
    let (items, numbering, inner) ← settleItems? numbering items
    let node := Node.sequence anchor tag items
    return (node, numbering, noted number node inner)
  | .mapping anchor tag entries => do
    let (numbering, number) := numbered numbering anchor
    let (entries, numbering, inner) ← settleEntries? numbering entries
    let node := Node.mapping anchor tag entries
    return (node, numbering, noted number node inner)

def settleItems? (numbering : Numbering) : List (Node String) → Option (Settled (List (Node Nat)))
  | [] => some ([], numbering, [])
  | item :: rest => do
    let (item, numbering, anchors) ← settle? numbering item
    let (rest, numbering, others) ← settleItems? numbering rest
    return (item :: rest, numbering, anchors ++ others)

def settleEntries? (numbering : Numbering) :
    List (Node String × Node String) → Option (Settled (List (Node Nat × Node Nat)))
  | [] => some ([], numbering, [])
  | (key, value) :: rest => do
    let (key, numbering, inKey) ← settle? numbering key
    let (value, numbering, inValue) ← settle? numbering value
    let (rest, numbering, others) ← settleEntries? numbering rest
    return ((key, value) :: rest, numbering, inKey ++ inValue ++ others)

end

def ofNode? (node : Node String) : Option Document := do
  let (root, _, anchors) ← settle? [] node
  return ⟨root, anchors.reverse⟩

/-- The first document of a text; what follows it does not matter. -/
def firstOfText? (text : String) : Option Document := do
  let (node, _) ← Composition.firstDocument? (tokensOfText text)
  ofNode? node

def ofText? (text : String) : Option Document := do
  let (node, rest) ← Composition.firstDocument? (tokensOfText text)
  if Composition.endsStream rest then ofNode? node else none

/-- How many references may be followed while the document is read. -/
def referenceLimit (document : Document) : Nat :=
  document.root.eventCount * 100

end Document

end CrdCompiler.Yaml
