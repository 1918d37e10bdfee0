import CrdCompiler.Yaml.Node

/-!
Nodes from tokens. Blocks and brackets become collections; where a key, a value or an item is not
written, a blank scalar stands. Every call takes at least one token or calls one that does, so twice
as much fuel as there are tokens is enough.
-/

namespace CrdCompiler.Yaml

abbrev TagHandles := List (String × String)

namespace TagHandles

def standard : TagHandles := [("!", "!"), ("!!", "tag:yaml.org,2002:")]

/-- A tag in full. Without a handle the suffix is the tag. -/
def resolve? (handles : TagHandles) (handle suffix : String) : Option String :=
  if handle.isEmpty then some suffix else (handles.lookup handle).map (· ++ suffix)

end TagHandles

namespace Composition

abbrev NamedNode := Node String

def properties? (handles : TagHandles) :
    List Token → Option (Option String × Option String × List Token)
  | .anchor anchor :: .tag handle suffix :: rest => do
    return (some anchor, some (← handles.resolve? handle suffix), rest)
  | .tag handle suffix :: .anchor anchor :: rest => do
    return (some anchor, some (← handles.resolve? handle suffix), rest)
  | .anchor anchor :: rest => some (some anchor, none, rest)
  | .tag handle suffix :: rest => do
    return (none, some (← handles.resolve? handle suffix), rest)
  | rest => some (none, none, rest)

/-- A key is not followed by a node of its own. -/
def endsBlockPart : Token → Bool
  | .key | .value | .blockEnd => true
  | _ => false

mutual

/-- The node at the start of the tokens. Blocks count only outside brackets, and entries without a
block of their own only where a mapping's parts stand. -/
def node? (handles : TagHandles) (block indentless : Bool) :
    Nat → List Token → Option (NamedNode × List Token)
  | 0, _ => none
  | _, .alias name :: rest => some (.reference name, rest)
  | fuel + 1, tokens => do
    let (anchor, tag, rest) ← properties? handles tokens
    match rest with
    | .scalar style text :: rest =>
      let tag := if tag = some "!" then none else tag
      return (.scalar anchor tag style text, rest)
    | .flowSequenceStart :: rest =>
      let (items, rest) ← flowItems? handles true [] fuel rest
      return (.sequence anchor tag items, rest)
    | .flowMappingStart :: rest =>
      let (entries, rest) ← flowEntries? handles true [] fuel rest
      return (.mapping anchor tag entries, rest)
    | .blockEntry :: _ =>
      if indentless then
        let (items, rest) ← indentlessItems? handles [] fuel rest
        return (.sequence anchor tag items, rest)
      else if anchor.isSome || tag.isSome then return (.scalar anchor tag .plain "", rest)
      else none
    | first :: inner =>
      if block && first = .blockSequenceStart then
        let (items, rest) ← blockItems? handles [] fuel inner
        return (.sequence anchor tag items, rest)
      else if block && first = .blockMappingStart then
        let (entries, rest) ← blockEntries? handles [] fuel inner
        return (.mapping anchor tag entries, rest)
      else if anchor.isSome || tag.isSome then return (.scalar anchor tag .plain "", rest)
      else none
    | [] => none

def blockItems? (handles : TagHandles) (items : List NamedNode) :
    Nat → List Token → Option (List NamedNode × List Token)
  | 0, _ => none
  | fuel + 1, .blockEntry :: rest =>
    match rest with
    | .blockEntry :: _ => blockItems? handles (.blank :: items) fuel rest
    | .blockEnd :: _ => blockItems? handles (.blank :: items) fuel rest
    | _ => do
      let (item, rest) ← node? handles true false fuel rest
      blockItems? handles (item :: items) fuel rest
  | _, .blockEnd :: rest => some (items.reverse, rest)
  | _, _ => none

/-- The items of a sequence at the indentation of the mapping around it. -/
def indentlessItems? (handles : TagHandles) (items : List NamedNode) :
    Nat → List Token → Option (List NamedNode × List Token)
  | 0, _ => none
  | fuel + 1, .blockEntry :: rest =>
    match rest with
    | .blockEntry :: _ => indentlessItems? handles (.blank :: items) fuel rest
    | first :: _ =>
      if endsBlockPart first then indentlessItems? handles (.blank :: items) fuel rest
      else do
        let (item, rest) ← node? handles true false fuel rest
        indentlessItems? handles (item :: items) fuel rest
    | [] => none
  | _, [] => none
  | _, rest => some (items.reverse, rest)

def blockEntries? (handles : TagHandles) (entries : List (NamedNode × NamedNode)) :
    Nat → List Token → Option (List (NamedNode × NamedNode) × List Token)
  | 0, _ => none
  | fuel + 1, .key :: rest => do
    let (key, rest) ← blockPart? handles fuel rest
    match rest with
    | .value :: rest =>
      let (value, rest) ← blockPart? handles fuel rest
      blockEntries? handles ((key, value) :: entries) fuel rest
    | rest => blockEntries? handles ((key, .blank) :: entries) fuel rest
  | _, .blockEnd :: rest => some (entries.reverse, rest)
  | _, _ => none

def blockPart? (handles : TagHandles) : Nat → List Token → Option (NamedNode × List Token)
  | 0, _ => none
  | _, [] => none
  | fuel + 1, first :: rest =>
    if endsBlockPart first then some (.blank, first :: rest)
    else node? handles true true fuel (first :: rest)

/-- The items between square brackets, in reverse so far. A key among them begins a mapping of one
entry. -/
def flowItems? (handles : TagHandles) (start : Bool) (items : List NamedNode) :
    Nat → List Token → Option (List NamedNode × List Token)
  | 0, _ => none
  | _, .flowSequenceEnd :: rest => some (items.reverse, rest)
  | fuel + 1, tokens => do
    let rest ←
      if start then some tokens
      else
        match tokens with
        | .flowEntry :: rest => some rest
        | _ => none
    match rest with
    | .flowSequenceEnd :: rest => return (items.reverse, rest)
    | .key :: rest =>
      let (entry, rest) ← flowPair? handles fuel rest
      flowItems? handles false (.mapping none none [entry] :: items) fuel rest
    | rest =>
      let (item, rest) ← node? handles false false fuel rest
      flowItems? handles false (item :: items) fuel rest

/-- The one entry of a mapping among the items between square brackets. A token that stands in place
of its key is passed over. -/
def flowPair? (handles : TagHandles) :
    Nat → List Token → Option ((NamedNode × NamedNode) × List Token)
  | 0, _ => none
  | fuel + 1, tokens => do
    let (key, rest) ←
      match tokens with
      | .value :: rest => some (.blank, rest)
      | .flowEntry :: rest => some (.blank, rest)
      | .flowSequenceEnd :: rest => some (.blank, rest)
      | tokens => node? handles false false fuel tokens
    match rest with
    | .value :: .flowEntry :: rest => return ((key, .blank), .flowEntry :: rest)
    | .value :: .flowSequenceEnd :: rest => return ((key, .blank), .flowSequenceEnd :: rest)
    | .value :: rest =>
      let (value, rest) ← node? handles false false fuel rest
      return ((key, value), rest)
    | [] => none
    | rest => return ((key, .blank), rest)

/-- The entries between braces, in reverse so far. An item without a mark is a key without a
value. -/
def flowEntries? (handles : TagHandles) (start : Bool) (entries : List (NamedNode × NamedNode)) :
    Nat → List Token → Option (List (NamedNode × NamedNode) × List Token)
  | 0, _ => none
  | _, .flowMappingEnd :: rest => some (entries.reverse, rest)
  | fuel + 1, tokens => do
    let rest ←
      if start then some tokens
      else
        match tokens with
        | .flowEntry :: rest => some rest
        | _ => none
    match rest with
    | .flowMappingEnd :: rest => return (entries.reverse, rest)
    | .key :: rest =>
      let (key, rest) ← flowPart? handles fuel rest
      match rest with
      | .value :: rest =>
        let (value, rest) ← flowPart? handles fuel rest
        flowEntries? handles false ((key, value) :: entries) fuel rest
      | rest => flowEntries? handles false ((key, .blank) :: entries) fuel rest
    | rest =>
      let (key, rest) ← node? handles false false fuel rest
      flowEntries? handles false ((key, .blank) :: entries) fuel rest

/-- A key or a value between braces. Only a key can be followed by the mark of a value. -/
def flowPart? (handles : TagHandles) : Nat → List Token → Option (NamedNode × List Token)
  | 0, _ => none
  | fuel + 1, tokens =>
    match tokens with
    | .value :: _ => some (.blank, tokens)
    | .flowEntry :: _ => some (.blank, tokens)
    | .flowMappingEnd :: _ => some (.blank, tokens)
    | _ => node? handles false false fuel tokens

end

/-- The directives before a document: one version at most, 1.1 or 1.2, and handles that differ. -/
def directives? (versioned : Bool) (handles : TagHandles) :
    List Token → Option (TagHandles × List Token)
  | .versionDirective major minor :: rest =>
    if versioned || major ≠ 1 || (minor ≠ 1 && minor ≠ 2) then none
    else directives? true handles rest
  | .tagDirective handle stem :: rest =>
    if (handles.lookup handle).isSome then none
    else directives? versioned ((handle, stem) :: handles) rest
  | rest => some (handles, rest)

def endsDocument : Token → Bool
  | .versionDirective _ _ | .tagDirective _ _ | .documentStart | .documentEnd | .streamEnd => true
  | _ => false

def beginsDocument : Token → Bool
  | .versionDirective _ _ | .tagDirective _ _ | .documentStart => true
  | _ => false

def explicitDocument? (tokens : List Token) : Option (NamedNode × List Token) := do
  let (handles, rest) ← directives? false [] tokens
  match rest with
  | .documentStart :: first :: rest =>
    if endsDocument first then some (.blank, first :: rest)
    else node? (handles ++ TagHandles.standard) true false (2 * rest.length + 4) (first :: rest)
  | _ => none

/-- The node of the first document, with the tokens after that document and its end mark. A stream
without documents counts as one blank node. -/
def firstDocument? (tokens : List Token) : Option (NamedNode × List Token) := do
  let (node, rest) ←
    match tokens with
    | [] => none
    | .streamEnd :: rest => some (.blank, .streamEnd :: rest)
    | first :: _ =>
      if beginsDocument first then explicitDocument? tokens
      else node? TagHandles.standard true false (2 * tokens.length + 2) tokens
  match rest with
  | [] => none
  | .documentEnd :: rest => return (node, rest)
  | rest => return (node, rest)

def endsStream : List Token → Bool
  | .documentEnd :: rest => endsStream rest
  | .streamEnd :: _ => true
  | _ => false

end Composition

end CrdCompiler.Yaml
