import CrdCompiler.Yaml.BlockScalar
import CrdCompiler.Yaml.Name
import CrdCompiler.Yaml.PlainScalar

/-!
The tokens of a text. Indentation opens and closes blocks. What stands before a colon turns out to
be a key only there, so a place where a key may begin is remembered, one at each level of brackets,
and the token that announces the key is put in at that place. A key has to end on its line and
within 1024 characters.
-/

namespace CrdCompiler.Yaml

/-- A place where a key may begin: the number of tokens before it. A key that is required cannot be
given up. -/
structure KeyCandidate where
  required : Bool
  tokenCount : Nat
  index : Nat
  line : Nat
  column : Nat
deriving Repr

/-- The tokens so far and what the next ones depend on. Candidates are listed from the innermost
level of brackets outwards. -/
structure TokenStream where
  cursor : Cursor
  tokens : Array Token := #[]
  flowLevel : Nat := 0
  indent : Int := -1
  outerIndents : List Int := []
  keyAllowed : Bool := true
  candidates : List (Option KeyCandidate) := [none]
deriving Repr

namespace TokenStream

def inFlow (stream : TokenStream) : Bool := stream.flowLevel ≠ 0

def push (stream : TokenStream) (token : Token) : TokenStream :=
  { stream with tokens := stream.tokens.push token }

def allowKey (stream : TokenStream) (allowed : Bool) : TokenStream :=
  { stream with keyAllowed := allowed }

/-- Passes over blanks, comments and line ends. Outside brackets a key may begin on each new line,
and there a tab is no blank. -/
def skipToToken : Nat → TokenStream → TokenStream
  | 0, stream => stream
  | fuel + 1, stream =>
    let cursor := stream.cursor
    let cursor :=
      if cursor.index = 0 && cursor.looksAt 0 (· = '\ufeff') then cursor.advance 1 else cursor
    let tabs := stream.inFlow || !stream.keyAllowed
    let cursor := cursor.skipWhile fun character => character = ' ' || (tabs && character = '\t')
    let cursor := if cursor.looksAt 0 (· = '#') then cursor.skipWhile (!isLineEnd ·) else cursor
    match cursor.lineEnd? with
    | some (_, cursor) =>
      skipToToken fuel { stream with cursor, keyAllowed := stream.keyAllowed || !stream.inFlow }
    | none => { stream with cursor }

/-- A candidate whose line or length is exceeded is given up. -/
def keepCandidate? (cursor : Cursor) : Option KeyCandidate → Option (Option KeyCandidate)
  | none => some none
  | some candidate =>
    if candidate.line < cursor.line ∨ candidate.index + 1024 < cursor.index then
      if candidate.required then none else some none
    else some (some candidate)

def dropStaleCandidates? (stream : TokenStream) : Option TokenStream := do
  return { stream with
    candidates := ← stream.candidates.mapM (keepCandidate? stream.cursor) }

/-- The candidate of the current level is given up. -/
def dropCandidate? (stream : TokenStream) : Option TokenStream :=
  match stream.candidates with
  | some candidate :: rest =>
    if candidate.required then none else some { stream with candidates := none :: rest }
  | _ => some stream

/-- If a key may begin here, the place is remembered. Outside brackets one has to, where the column
is the indentation of the block. -/
def saveCandidate? (stream : TokenStream) : Option TokenStream := do
  if stream.keyAllowed then
    let stream ← stream.dropCandidate?
    let cursor := stream.cursor
    let candidate : KeyCandidate := {
      required := !stream.inFlow && stream.indent = cursor.column
      tokenCount := stream.tokens.size
      index := cursor.index
      line := cursor.line
      column := cursor.column }
    return { stream with candidates := some candidate :: stream.candidates.drop 1 }
  else return stream

def unroll (column : Int) : List Int → TokenStream → TokenStream
  | [], stream => stream
  | outer :: rest, stream =>
    if stream.indent ≤ column then stream
    else
      unroll column rest
        { stream.push .blockEnd with indent := outer, outerIndents := rest }

def unrollTo (stream : TokenStream) (column : Int) : TokenStream :=
  if stream.inFlow then stream else unroll column stream.outerIndents stream

def rollTo (stream : TokenStream) (column : Nat) (position : Nat) (token : Token) : TokenStream :=
  if stream.inFlow || column ≤ stream.indent then stream
  else { stream with
    tokens := stream.tokens.insertIdxIfInBounds position token
    indent := column
    outerIndents := stream.indent :: stream.outerIndents }

def take (stream : TokenStream) (count : Nat) (token : Token) : TokenStream :=
  { stream.push token with cursor := stream.cursor.advance count }

def documentMarker? (stream : TokenStream) (token : Token) : Option TokenStream := do
  let stream ← (stream.unrollTo (-1)).dropCandidate?
  return (stream.allowKey false).take 3 token

def directive? (stream : TokenStream) : Option TokenStream := do
  let stream ← (stream.unrollTo (-1)).dropCandidate?
  let (token, cursor) ← Name.directive? stream.cursor
  return { (stream.allowKey false).push token with cursor }

def flowStart? (stream : TokenStream) (token : Token) : Option TokenStream := do
  let stream ← stream.saveCandidate?
  return ({ stream with
    flowLevel := stream.flowLevel + 1
    candidates := none :: stream.candidates }.allowKey true).take 1 token

def flowEnd? (stream : TokenStream) (token : Token) : Option TokenStream := do
  let stream ← stream.dropCandidate?
  let stream :=
    if stream.inFlow then
      { stream with flowLevel := stream.flowLevel - 1, candidates := stream.candidates.drop 1 }
    else stream
  return (stream.allowKey false).take 1 token

def flowEntry? (stream : TokenStream) : Option TokenStream := do
  let stream ← stream.dropCandidate?
  return (stream.allowKey true).take 1 .flowEntry

def blockEntry? (stream : TokenStream) : Option TokenStream := do
  if !stream.inFlow && !stream.keyAllowed then none
  let stream := stream.rollTo stream.cursor.column stream.tokens.size .blockSequenceStart
  let stream ← stream.dropCandidate?
  return (stream.allowKey true).take 1 .blockEntry

def key? (stream : TokenStream) : Option TokenStream := do
  if !stream.inFlow && !stream.keyAllowed then none
  let stream := stream.rollTo stream.cursor.column stream.tokens.size .blockMappingStart
  let stream ← stream.dropCandidate?
  return (stream.allowKey !stream.inFlow).take 1 .key

/-- A colon makes a key of the candidate, or else belongs to a key that was announced. -/
def value? (stream : TokenStream) : Option TokenStream :=
  match stream.candidates with
  | some candidate :: rest =>
    let stream := { stream with
      tokens := stream.tokens.insertIdxIfInBounds candidate.tokenCount .key
      candidates := none :: rest }
    let stream := stream.rollTo candidate.column candidate.tokenCount .blockMappingStart
    some ((stream.allowKey false).take 1 .value)
  | _ =>
    if !stream.inFlow && !stream.keyAllowed then none
    else
      let stream := stream.rollTo stream.cursor.column stream.tokens.size .blockMappingStart
      some ((stream.allowKey !stream.inFlow).take 1 .value)

/-- A token that a key may begin with. -/
def inKey? (stream : TokenStream) (read : Cursor → Option (Token × Cursor)) :
    Option TokenStream := do
  let stream ← stream.saveCandidate?
  let (token, cursor) ← read stream.cursor
  return { (stream.allowKey false).push token with cursor }

def plainScalar? (stream : TokenStream) : Option TokenStream := do
  let stream ← stream.saveCandidate?
  let (text, broken, cursor) ← PlainScalar.read? stream.inFlow stream.indent stream.cursor
  return { (stream.allowKey broken).push (.scalar .plain text) with cursor }

def blockScalar? (stream : TokenStream) (literal : Bool) : Option TokenStream := do
  let stream ← stream.dropCandidate?
  let (text, cursor) ← BlockScalar.read? literal stream.indent stream.cursor
  let style := if literal then ScalarStyle.literal else .folded
  return { (stream.allowKey true).push (.scalar style text) with cursor }

def finish? (stream : TokenStream) : Option TokenStream := do
  let stream ← (stream.unrollTo (-1)).dropCandidate?
  return (stream.allowKey false).push .streamEnd

def isIndicator (character : Char) : Bool :=
  "-?:,[]\x7b\x7d#&*!|>'\"%@\x60".toList.contains character

def tokenAt? (stream : TokenStream) (first : Char) : Option TokenStream :=
  let cursor := stream.cursor
  let alone := cursor.endsWordAt 1
  if cursor.column = 0 && first = '%' then stream.directive?
  else if cursor.atMarker '-' then stream.documentMarker? .documentStart
  else if cursor.atMarker '.' then stream.documentMarker? .documentEnd
  else if first = '[' then stream.flowStart? .flowSequenceStart
  else if first = '\x7b' then stream.flowStart? .flowMappingStart
  else if first = ']' then stream.flowEnd? .flowSequenceEnd
  else if first = '\x7d' then stream.flowEnd? .flowMappingEnd
  else if first = ',' then stream.flowEntry?
  else if first = '-' && alone then stream.blockEntry?
  else if first = '?' && (stream.inFlow || alone) then stream.key?
  else if first = ':' && (stream.inFlow || alone) then stream.value?
  else if first = '*' then
    stream.inKey? fun cursor => (Name.anchor? cursor).map fun (name, next) => (.alias name, next)
  else if first = '&' then
    stream.inKey? fun cursor => (Name.anchor? cursor).map fun (name, next) => (.anchor name, next)
  else if first = '!' then stream.inKey? (Name.tag? stream.inFlow)
  else if first = '|' && !stream.inFlow then stream.blockScalar? true
  else if first = '>' && !stream.inFlow then stream.blockScalar? false
  else if first = '\'' || first = '"' then
    stream.inKey? fun cursor =>
      (QuotedScalar.read? (first = '\'') cursor).map fun (text, next) =>
        (.scalar .quoted text, next)
  else if !(isSpaceOrTab first || isIndicator first) ||
      (first = '-' && !cursor.looksAt 1 isSpaceOrTab) ||
      (!stream.inFlow && (first = '?' || first = ':') && !alone) then
    stream.plainScalar?
  else none

def next? (stream : TokenStream) : Option TokenStream := do
  let stream ← (skipToToken (stream.cursor.rest.length + 1) stream).dropStaleCandidates?
  let stream := stream.unrollTo stream.cursor.column
  match stream.cursor.rest with
  | [] => stream.finish?
  | first :: _ => stream.tokenAt? first

def run : Nat → TokenStream → TokenStream
  | 0, stream => stream
  | fuel + 1, stream =>
    match stream.next? with
    | none => stream
    | some next => if next.tokens.back? = some .streamEnd then next else run fuel next

def blockSize : Nat := 16384

/-- The characters before the first block with one that may not stand in a text, and whether there
is such a block. -/
def readablePart : List Char → List Char → Nat → List Char → List Char × Bool
  | read, block, _, [] => ((block ++ read).reverse, false)
  | read, block, size, character :: rest =>
    let width := character.utf8Size
    if blockSize < size + width then
      if isReadable character then readablePart (block ++ read) [character] width rest
      else ((block ++ read).reverse, true)
    else if isReadable character then readablePart read (character :: block) (size + width) rest
    else (read.reverse, true)

end TokenStream

/-- The tokens of a text. A text that breaks off ends without the token for its end. -/
def tokensOfText (text : String) : List Token :=
  let (characters, broken) := TokenStream.readablePart [] [] 0 text.toList
  let stream : TokenStream := { cursor := { rest := characters } }
  let tokens := (TokenStream.run (characters.length + 2) stream).tokens.toList
  if broken then tokens.filter (· ≠ .streamEnd) else tokens

end CrdCompiler.Yaml
