import CrdCompiler.Yaml.Token

/-!
Documents as trees of nodes. A node may carry a tag and an anchor; a reference stands in place of
the node that it names. While a document is read references are names; in a document that is
complete they are numbers.
-/

namespace CrdCompiler.Yaml

inductive Node (ref : Type) where
  | reference (target : ref)
  | scalar (anchor tag : Option String) (style : ScalarStyle) (text : String)
  | sequence (anchor tag : Option String) (items : List (Node ref))
  | mapping (anchor tag : Option String) (entries : List (Node ref × Node ref))
deriving Repr

namespace Node

def blank {ref : Type} : Node ref := .scalar none none .plain ""

mutual

/-- The length of the document as a list of events: one for a leaf, two for a collection. -/
def eventCount {ref : Type} : Node ref → Nat
  | .reference _ => 1
  | .scalar _ _ _ _ => 1
  | .sequence _ _ items => itemsEventCount items + 2
  | .mapping _ _ entries => entriesEventCount entries + 2

def itemsEventCount {ref : Type} : List (Node ref) → Nat
  | [] => 0
  | item :: rest => item.eventCount + itemsEventCount rest

def entriesEventCount {ref : Type} : List (Node ref × Node ref) → Nat
  | [] => 0
  | (key, value) :: rest => key.eventCount + value.eventCount + entriesEventCount rest

end

end Node

end CrdCompiler.Yaml
