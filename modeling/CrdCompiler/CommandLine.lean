import CrdCompiler.Config

/-!
The arguments of the program: options, one of two commands, and more options of that command. Two
options belong to both places; the one after the command counts if both are there. A value follows
its option as the next argument or after an equals sign, and only in the second form may it begin
with a dash. After two dashes alone no argument is an option.
-/

namespace CrdCompiler

inductive Command where
  | generate (overrides : Overrides)
  | inspect (file : FilePath) (maxDepth : Nat) (compact : Bool)
deriving Repr

structure Invocation where
  verbose : Nat
  config : FilePath
  command : Command
deriving Repr

namespace CommandLine

inductive Stop where
  | usage
  | version
  | help
deriving DecidableEq, Repr

inductive Level where
  | program
  | generate
  | inspect
deriving DecidableEq, Repr

inductive Flag where
  | verbose
  | version
  | help
  | compact
deriving DecidableEq, Repr

inductive Setting where
  | config
  | schemasDir
  | outputDir
  | onError
  | maxDepth
deriving DecidableEq, Repr

structure Given where
  verbose : Nat := 0
  config : Option FilePath := none
  schemasDir : Option FilePath := none
  outputDir : Option FilePath := none
  onError : Option FailurePolicy := none
  maxDepth : Option Nat := none
  compact : Bool := false
  file : Option FilePath := none
deriving Repr

def commandOf? (word : String) : Option Level :=
  if word = "generate" then some .generate
  else if word = "inspect" then some .inspect
  else none

def flagNamed? (level : Level) (name : String) : Option Flag :=
  if name = "verbose" then some .verbose
  else if name = "help" then some .help
  else if name = "version" ∧ level = .program then some .version
  else if name = "compact" ∧ level = .inspect then some .compact
  else none

def flagLettered? (level : Level) (letter : Char) : Option Flag :=
  if letter = 'v' then some .verbose
  else if letter = 'h' then some .help
  else if letter = 'V' ∧ level = .program then some .version
  else none

def settingNamed? (level : Level) (name : String) : Option Setting :=
  if name = "config" then some .config
  else if name = "schemas-dir" ∧ level = .generate then some .schemasDir
  else if name = "output-dir" ∧ level = .generate then some .outputDir
  else if name = "on-error" ∧ level = .generate then some .onError
  else if name = "max-depth" ∧ level = .inspect then some .maxDepth
  else none

def pathOf? (value : String) : Option FilePath :=
  if value.isEmpty then none else some ⟨value⟩

def depthOf? (value : String) : Option Nat :=
  let digits :=
    match value.toList with
    | '+' :: digits => digits
    | digits => digits
  if digits.isEmpty || !digits.all Char.isDigit then none
  else
    let number := digits.foldl (fun number digit => 10 * number + (digit.toNat - '0'.toNat)) 0
    if number < 18446744073709551616 then some number else none

def once (known read : Option α) : Except Stop (Option α) :=
  match known, read with
  | none, some value => .ok (some value)
  | _, _ => .error .usage

def raise (given : Given) : Flag → Except Stop Given
  | .verbose => .ok { given with verbose := given.verbose + 1 }
  | .version => .error .version
  | .help => .error .help
  | .compact => if given.compact then .error .usage else .ok { given with compact := true }

def set (given : Given) (setting : Setting) (value : String) : Except Stop Given := do
  match setting with
  | .config => return { given with config := ← once given.config (pathOf? value) }
  | .schemasDir => return { given with schemasDir := ← once given.schemasDir (pathOf? value) }
  | .outputDir => return { given with outputDir := ← once given.outputDir (pathOf? value) }
  | .onError => return { given with onError := ← once given.onError (FailurePolicy.ofWord? value) }
  | .maxDepth => return { given with maxDepth := ← once given.maxDepth (depthOf? value) }

/-- An argument that is no option: the file to inspect. -/
def setFile (level : Level) (given : Given) (value : String) : Except Stop Given := do
  match level with
  | .inspect => return { given with file := ← once given.file (pathOf? value) }
  | _ => .error .usage

def raiseAll (level : Level) (given : Given) (letters : List Char) : Except Stop Given :=
  letters.foldlM (fun given letter =>
    match flagLettered? level letter with
    | some flag => raise given flag
    | none => .error .usage) given

def conclude (level : Level) (outer given : Given) : Except Stop Invocation := do
  let verbose := if given.verbose = 0 then outer.verbose else given.verbose
  let config := (given.config <|> outer.config).getD ⟨"tfpgen.yaml"⟩
  match level with
  | .program => .error .usage
  | .generate =>
    return ⟨verbose, config, .generate ⟨given.schemasDir, given.outputDir, given.onError⟩⟩
  | .inspect =>
    match given.file with
    | none => .error .usage
    | some file => return ⟨verbose, config, .inspect file (given.maxDepth.getD 32) given.compact⟩

inductive Shape where
  | word
  | separator
  | long (name : String) (value : Option String)
  | short (letters : List Char)
deriving Repr

def shapeOfLong (body : List Char) : Shape :=
  let name := String.ofList (body.takeWhile (· ≠ '='))
  match body.dropWhile (· ≠ '=') with
  | [] => .long name none
  | _ :: value => .long name (some (String.ofList value))

def shapeOf (argument : String) : Shape :=
  match argument.toList with
  | ['-', '-'] => .separator
  | '-' :: '-' :: body => shapeOfLong body
  | '-' :: letter :: letters => .short (letter :: letters)
  | _ => .word

/-- Reads arguments at a level; `outer` holds what was found before the command. -/
def read (level : Level) (outer given : Given) : List String → Except Stop Invocation
  | [] => conclude level outer given
  | argument :: rest =>
    match shapeOf argument with
    | .separator => do conclude level outer (← rest.foldlM (setFile level) given)
    | .short letters => do read level outer (← raiseAll level given letters) rest
    | .long name value =>
      match flagNamed? level name, value with
      | some flag, none => do read level outer (← raise given flag) rest
      | some _, some _ => .error .usage
      | none, _ =>
        match settingNamed? level name, value, rest with
        | none, _, _ => .error .usage
        | some setting, some value, rest => do read level outer (← set given setting value) rest
        | some _, none, [] => .error .usage
        | some setting, none, value :: rest =>
          match shapeOf value with
          | .word => do read level outer (← set given setting value) rest
          | _ => .error .usage
    | .word =>
      match level with
      | .program =>
        match commandOf? argument with
        | some command => read command given {} rest
        | none => .error (if argument = "help" then .help else .usage)
      | _ => do read level outer (← setFile level given argument) rest

def parse (arguments : List String) : Except Stop Invocation :=
  read .program {} {} arguments

end CommandLine

end CrdCompiler
