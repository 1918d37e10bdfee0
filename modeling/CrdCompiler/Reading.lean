import CrdCompiler.Content
import CrdCompiler.Member

/-!
Reading typed values. A source gives up parts of a type on demand and refuses what is of another
type; a record is read from the entries of a mapping, or from the elements of a sequence in the
order of the record's fields. What a refusal was about is not told.
-/

namespace CrdCompiler

/-- A notation from which typed parts are read in the monad `m`. -/
class Source (m : Type → Type) (σ : Type) where
  text : σ → m String
  flag : σ → m Bool
  number : σ → m Binary64
  unsigned : σ → m UInt64
  raw : σ → m Json
  present? : σ → m (Option σ)
  items : σ → m (List σ)
  members : σ → m (List (String × σ))
  /-- The entries that make up a record of so many fields. -/
  record : Nat → σ → m (List (ContentKey × σ))

structure Fields (σ : Type) where
  entries : List (String × σ)

namespace Fields

/-- The field that a key stands for; keys of no field are passed over. -/
def fieldOf? (names : List String) : ContentKey → Option (Option String)
  | .name name => some (if names.contains name then some name else none)
  | .position index => some names[index]?
  | .other => none

/-- Every key stands for a field or for nothing, and no field is given twice. -/
def ofEntries? (names : List String) : List (ContentKey × σ) → Option (Fields σ)
  | [] => some ⟨[]⟩
  | (key, value) :: rest => do
    let fields ← ofEntries? names rest
    match ← fieldOf? names key with
    | none => some fields
    | some name =>
      if (fields.entries.lookup name).isSome then none else some ⟨(name, value) :: fields.entries⟩

variable {m : Type → Type} [Monad m] [MonadExceptOf Unit m] [Source m σ]

def lift (found : Option α) : m α :=
  match found with
  | some value => pure value
  | none => throw ()

def read (names : List String) (source : σ) : m (Fields σ) := do
  lift (ofEntries? names (← Source.record names.length source))

def needed (fields : Fields σ) (name : String) (decode : σ → m α) : m α := do
  decode (← lift (fields.entries.lookup name))

def getD (fields : Fields σ) (name : String) (fallback : α) (decode : σ → m α) : m α :=
  match fields.entries.lookup name with
  | none => pure fallback
  | some source => decode source

/-- A field that may be left out or null. -/
def get? (fields : Fields σ) (name : String) (decode : σ → m α) : m (Option α) :=
  match fields.entries.lookup name with
  | none => pure none
  | some source => do
    match ← Source.present? (m := m) source with
    | none => return none
    | some source => return some (← decode source)

end Fields

def readItems {m : Type → Type} [Monad m] [Source m σ] (decode : σ → m α) (source : σ) :
    m (List α) := do
  (← Source.items source).mapM decode

/-- A map from names, in the order of the names; a repeated name keeps its first place and its last
value. -/
def readMembers {m : Type → Type} [Monad m] [Source m σ] (decode : σ → m α) (source : σ) :
    m (List (String × α)) := do
  let members ← (← Source.members source).mapM fun (name, part) => do
    return (name, ← decode part)
  return members.foldl (fun known (name, value) => putMember known name value) []

namespace Content

def toBinary64? : Content → Option Binary64
  | .float value => some value
  | .integer number => some (.ofInt number.value)
  | .minusZero => some .zero
  | _ => none

def namedEntries? : List (ContentKey × Content) → Option (List (String × Content))
  | [] => some []
  | (.name name, value) :: rest => ((name, value) :: ·) <$> namedEntries? rest
  | (_, _) :: _ => none

/-- The elements of a sequence as the fields of a record, by position. -/
def positioned (index : Nat) : List Content → List (ContentKey × Content)
  | [] => []
  | item :: rest => (.position index, item) :: positioned (index + 1) rest

instance : Source Option Content where
  text content := match content with
    | .text value => some value
    | _ => none
  flag content := match content with
    | .bool value => some value
    | _ => none
  number := toBinary64?
  unsigned content := match content with
    | .integer value => value.toUInt64?
    | .minusZero => some 0
    | _ => none
  raw := toJson?
  present? content := match content with
    | .null => some none
    | content => some (some content)
  items content := match content with
    | .sequence items => some items
    | _ => none
  members content := match content with
    | .mapping entries => namedEntries? entries
    | _ => none
  record count content := match content with
    | .mapping entries => some entries
    | .sequence items => if items.length ≤ count then some (positioned 0 items) else none
    | _ => none

end Content

end CrdCompiler
