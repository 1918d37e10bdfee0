import CrdCompiler.Reading
import CrdCompiler.Schema.Reading
import CrdCompiler.Yaml.Document
import CrdCompiler.Yaml.Scalar

/-!
Reading typed values from a document. References are followed on the way, so many in all and no
more, and collections may be nested 128 deep; a part that nobody asks for is not looked at.
-/

namespace CrdCompiler.Yaml

/-- A node with the number of collections that may still be nested in each other there. -/
structure Place where
  node : Node Nat
  remaining : Nat
deriving Repr

/-- Reading with the anchored nodes at hand; the state is how many references may still be
followed. -/
abbrev Reader := StateT Nat (ReaderT (List (Nat × Node Nat)) Option)

namespace Place

def follow (place : Place) : Reader Place :=
  match place.node with
  | .reference target => do
    match ← get with
    | 0 => failure
    | left + 1 =>
      set left
      match (← read).lookup target with
      | some node => return { place with node }
      | none => failure
  | _ => return place

/-- A blank scalar may stand for an empty collection. -/
def isBlank (place : Place) : Bool :=
  match place.node with
  | .scalar _ _ style text => style = .plain && text.isEmpty
  | _ => false

def enter (place : Place) : Reader Nat :=
  match place.remaining with
  | 0 => failure
  | remaining + 1 => return remaining

def text (place : Place) : Reader String := do
  match (← place.follow).node with
  | .scalar _ _ _ text => return text
  | _ => failure

def typed (expected : String) (decode : String → Option α) (place : Place) : Reader α := do
  match (← place.follow).node with
  | .scalar _ tag style text =>
    if Scalar.mayBe expected tag style then Fields.lift (decode text) else failure
  | _ => failure

def present? (place : Place) : Reader (Option Place) := do
  let place ← place.follow
  match place.node with
  | .scalar _ tag .plain text =>
    match tag with
    | none => return if text.isEmpty || Scalar.isNull text then none else some place
    | some name =>
      if name = Scalar.nullTag then if Scalar.isNull text then return none else failure
      else return some place
  | _ => return some place

def items (place : Place) : Reader (List Place) := do
  let place ← place.follow
  if place.isBlank then return []
  match place.node with
  | .sequence _ _ items =>
    let remaining ← place.enter
    return items.map (⟨·, remaining⟩)
  | _ => failure

def entries (place : Place) : Reader (List (String × Place)) := do
  let place ← place.follow
  if place.isBlank then return []
  match place.node with
  | .mapping _ _ entries =>
    let remaining ← place.enter
    entries.mapM fun (key, value) => do
      return (← (Place.mk key remaining).text, ⟨value, remaining⟩)
  | _ => failure

def untyped : Nat → Node Nat → Reader Content
  | remaining, node => do
    match (← (Place.mk node remaining).follow).node with
    | .scalar _ tag style text => Fields.lift (Scalar.content? tag style text)
    | .sequence _ tag items =>
      if Scalar.isLocal tag then failure
      match remaining with
      | 0 => failure
      | remaining + 1 => return .sequence (← items.mapM (untyped remaining))
    | .mapping _ tag entries =>
      if Scalar.isLocal tag then failure
      match remaining with
      | 0 => failure
      | remaining + 1 =>
        return .mapping (← entries.mapM fun (key, value) => do
          return ((← untyped remaining key).toKey, ← untyped remaining value))
    | .reference _ => failure

/-- Whatever is there as a JSON value. Unlike untyped content, a mapping may have any scalar as a
key, which then counts as a text. -/
def raw : Nat → Node Nat → Reader Json
  | remaining, node => do
    match (← (Place.mk node remaining).follow).node with
    | .scalar _ tag style text => Fields.lift ((Scalar.content? tag style text).bind Content.toJson?)
    | .sequence _ tag items =>
      if Scalar.isLocal tag then failure
      match remaining with
      | 0 => failure
      | remaining + 1 => return .array (← items.mapM (raw remaining))
    | .mapping _ tag entries =>
      if Scalar.isLocal tag then failure
      match remaining with
      | 0 => failure
      | remaining + 1 =>
        let members ← entries.mapM fun (key, value) => do
          return (← (Place.mk key remaining).text, ← raw remaining value)
        return .object (members.foldl (fun known (name, value) =>
          Json.insertMember name value known) [])
    | .reference _ => failure

instance : Source Reader Place where
  text := Place.text
  flag := typed Scalar.flagTag Scalar.flag?
  number := typed Scalar.numberTag Scalar.number?
  unsigned := typed Scalar.integerTag Scalar.unsigned?
  raw place := Place.raw place.remaining place.node
  present? := Place.present?
  items := Place.items
  members := Place.entries
  record _ place := do
    return (← place.entries).map fun (name, value) => (.name name, value)

end Place

def nestingLimit : Nat := 128

namespace Document

def decode (document : Document) (reader : Place → Reader α) : Option α := do
  let (value, _) ← (reader ⟨document.root, nestingLimit⟩).run document.referenceLimit
    |>.run document.anchors
  return value

end Document

end Yaml

namespace SchemaNode

open Yaml in
/-- What stands under `additionalProperties`: content first, a flag or a schema then. -/
def valuesAt (place : Place) : Reader (AdditionalProperties SchemaNode) := do
  Fields.lift (valuesOfContent? (← Place.untyped place.remaining place.node))

open Yaml in
/-- The node at a place, with fuel for the nodes below it. -/
def atPlace : Nat → Place → Reader SchemaNode
  | 0 => fun _ => failure
  | fuel + 1 => readWith (atPlace fuel) valuesAt

/-- The node that a document is. Nodes are nested less deep than collections. -/
def ofDocument? (document : Yaml.Document) : Option SchemaNode :=
  document.decode (atPlace (Yaml.nestingLimit + 2))

def ofText? (text : String) : Option SchemaNode :=
  (Yaml.Document.ofText? text).bind ofDocument?

end SchemaNode

namespace CustomResourceDefinition

def ofText? (text : String) : Option CustomResourceDefinition := do
  (← Yaml.Document.firstOfText? text).decode
    (readWith (SchemaNode.atPlace (Yaml.nestingLimit + 2)))

end CustomResourceDefinition

end CrdCompiler
