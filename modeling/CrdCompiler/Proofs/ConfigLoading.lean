import CrdCompiler.Proofs.DepthCeiling
import CrdCompiler.Proofs.Listing
import CrdCompiler.Proofs.PathComponents

/-! # Loaded configurations

A configuration that is loaded names its directories from the root, has a name for its module and
admits a level of fields at least. The working directory leaves no trace in it: a file that is
loaded by a relative path gives, component by component, what it gives from any other working
directory by the path that leads there from the first. No run under such a configuration stops for
depth at the root of a subtree.
-/

namespace CrdCompiler

open FilePath

/-! ## Directories of a configuration -/

namespace Config

/-- The directory of the file at a path, from which the directories in the file are seen. -/
def baseOf (path here : FilePath) : FilePath :=
  let directory := path.parent?.getD ⟨""⟩
  if directory.isAbsolute then directory else here.join directory

variable {path here : FilePath}

theorem isAbsolute_baseOf (path : FilePath) (absolute : here.isAbsolute) :
    (baseOf path here).isAbsolute := by
  unfold baseOf
  extract_lets directory
  split
  · assumption
  · exact isAbsolute_join_of_base absolute _

theorem steps_baseOf (moves : path.steps ≠ []) :
    (baseOf path here).steps = (here.join path).steps.dropLast := by
  rcases exists_parent moves with ⟨directory, found⟩
  rcases parent?_eq_some found with ⟨start, steps⟩
  rw [baseOf, found, Option.getD_some]
  by_cases absolute : path.isAbsolute
  · rw [absolute] at start
    simp only [start, if_true, steps, steps_join, absolute]
  · rw [eq_false_of_ne_true absolute] at start
    simp only [start, Bool.false_eq_true, if_false, steps_join, steps, absolute]
    exact (List.dropLast_append_of_ne_nil moves).symm

theorem exists_parent_join (path : FilePath) (moves : path.steps ≠ [])
    (absolute : here.isAbsolute) :
    ∃ directory, (here.join path).parent? = some directory ∧ directory.isAbsolute ∧
      (baseOf path here).steps = directory.steps := by
  have rooted := isAbsolute_join_of_base absolute path
  rcases exists_parent (steps_join_ne_nil here moves) with ⟨directory, found⟩
  rcases parent?_eq_some found with ⟨start, steps⟩
  exact ⟨directory, found, start.trans rooted, by rw [steps_baseOf moves, steps]⟩

theorem ofFileText_eq (path : FilePath) (text : String) (here : FilePath) :
    ofFileText path text (some here) =
      match ofText? text with
      | none => .error (.malformed path)
      | some written =>
        match written.fault? with
        | some fault => .error (.invalid path fault)
        | none => .ok (written.basedAt (baseOf path here)) := by
  rw [ofFileText]
  cases ofText? text with
  | none => rfl
  | some written =>
      unfold baseOf
      extract_lets directory
      by_cases absolute : directory.isAbsolute
      · simp only [absolute]
        rfl
      · simp only [absolute]
        rfl

theorem fault?_eq_none_iff {config : Config} :
    config.fault? = none ↔
      (∃ character ∈ config.moduleName.toList, ¬ Text.isBlank character) ∧ 1 ≤ config.maxDepth := by
  have named : config.moduleName.toList.all Text.isBlank = false ↔
      ∃ character ∈ config.moduleName.toList, ¬ Text.isBlank character := by
    simp
  rw [fault?, ← named, Nat.one_le_iff_ne_zero]
  cases config.moduleName.toList.all Text.isBlank <;> simp

theorem ofFileText_eq_ok {text : String} {config : Config} :
    ofFileText path text (some here) = .ok config ↔
      ∃ written, ofText? text = some written ∧ written.fault? = none ∧
        written.basedAt (baseOf path here) = config := by
  rw [ofFileText_eq]
  cases ofText? text with
  | none => simp
  | some written =>
      cases usable : written.fault? <;> simp [usable]

/-- A directory in the file and the directory that it is loaded as, seen from where the file is. -/
structure SeenFrom (directory written loaded : FilePath) : Prop where
  absolute : loaded.isAbsolute
  joined : loaded.Alike (directory.join written)
  replaced : written.isAbsolute → loaded = written

/-- The configuration in a file, and what it is loaded as from a file in a directory. -/
structure LoadedAs (directory : FilePath) (written loaded : Config) : Prop where
  schemasDir : SeenFrom directory written.schemasDir loaded.schemasDir
  outputDir : SeenFrom directory written.outputDir loaded.outputDir
  settings : loaded =
    { written with schemasDir := loaded.schemasDir, outputDir := loaded.outputDir }
  named : ∃ character ∈ loaded.moduleName.toList, ¬ Text.isBlank character
  deep : 1 ≤ loaded.maxDepth

theorem loadedAs_of_ofFileText {text : String} {loaded : Config} (moves : path.steps ≠ [])
    (absolute : here.isAbsolute) (read : ofFileText path text (some here) = .ok loaded) :
    ∃ written directory, ofText? text = some written ∧
      (here.join path).parent? = some directory ∧ LoadedAs directory written loaded := by
  rcases ofFileText_eq_ok.mp read with ⟨written, decoded, usable, rfl⟩
  rcases exists_parent_join path moves absolute with ⟨directory, found, start, steps⟩
  have based := isAbsolute_baseOf path absolute
  have seen (wanted : FilePath) : SeenFrom directory wanted ((baseOf path here).join wanted) := {
    absolute := isAbsolute_join_of_base based wanted
    joined := join_alike wanted based start steps
    replaced := fun rooted => by rw [join, if_pos rooted] }
  rcases fault?_eq_none_iff.mp usable with ⟨named, deep⟩
  exact ⟨written, directory, decoded, found, seen _, seen _, rfl, named, deep⟩

/-- The same configuration, but that its directories may be told by other texts. -/
structure Alike (left right : Config) : Prop where
  schemasDir : left.schemasDir.Alike right.schemasDir
  outputDir : left.outputDir.Alike right.outputDir
  settings : left =
    { right with schemasDir := left.schemasDir, outputDir := left.outputDir }

end Config

inductive ConfigError.Alike : ConfigError → ConfigError → Prop where
  | unreadable (left right : FilePath) : Alike (.unreadable left) (.unreadable right)
  | malformed (left right : FilePath) : Alike (.malformed left) (.malformed right)
  | noWorkingDirectory : Alike .noWorkingDirectory .noWorkingDirectory
  | invalid (left right : FilePath) (fault : ConfigFault) :
      Alike (.invalid left fault) (.invalid right fault)

/-- Both ways of loading succeed or fail alike. -/
inductive Config.LoadedAlike : Except ConfigError Config → Except ConfigError Config → Prop where
  | ok {left right : Config} (alike : left.Alike right) : LoadedAlike (.ok left) (.ok right)
  | error {left right : ConfigError} (alike : left.Alike right) :
      LoadedAlike (.error left) (.error right)

theorem Config.ofFileText_alike {path here : FilePath} (text : String) (there : FilePath)
    (moves : path.steps ≠ []) (absolute : here.isAbsolute) (otherAbsolute : there.isAbsolute) :
    LoadedAlike (ofFileText path text (some here))
      (ofFileText (here.join path) text (some there)) := by
  rw [ofFileText_eq, ofFileText_eq]
  cases ofText? text with
  | none => exact .error (.malformed _ _)
  | some written =>
      cases usable : written.fault? with
      | some fault => simpa only [usable] using .error (.invalid path (here.join path) fault)
      | none =>
          simp only [usable]
          have rooted := isAbsolute_join_of_base absolute path
          have steps : (baseOf path here).steps = (baseOf (here.join path) there).steps := by
            rw [steps_baseOf moves, steps_baseOf (steps_join_ne_nil here moves),
              steps_join there, if_pos rooted]
          have same (wanted : FilePath) :
              ((baseOf path here).join wanted).Alike
                ((baseOf (here.join path) there).join wanted) :=
            join_alike wanted (isAbsolute_baseOf path absolute)
              (isAbsolute_baseOf _ otherAbsolute) steps
          exact .ok ⟨same _, same _, rfl⟩

/-! ## Reading by a joined path -/

namespace FilePath

theorem isUsable_of_join_tail {path tail : FilePath} (told : tail.text ≠ "")
    (usable : (path.join tail).isUsable) : tail.isUsable := by
  have ends : ∃ front, (path.join tail).text = front ++ tail.text := by
    rw [join]
    split
    · exact ⟨"", String.empty_append.symm⟩
    · split <;> exact ⟨_, rfl⟩
  rcases ends with ⟨front, text⟩
  simp only [isUsable, text, Bool.and_eq_true, Bool.not_eq_true', decide_eq_true_eq,
    String.isEmpty_eq_false_iff, String.utf8ByteSize_append, String.toList_append,
    List.contains_append, Bool.or_eq_false_iff] at usable ⊢
  rcases usable with ⟨⟨_, short⟩, _, clean⟩
  exact ⟨⟨told, (Nat.le_add_left _ _).trans short⟩, clean⟩

theorem isUsable_join {path tail : FilePath} (usable : path.isUsable) (tailUsable : tail.isUsable)
    (short : (path.join tail).text.utf8ByteSize ≤ byteLimit) : (path.join tail).isUsable := by
  by_cases absolute : tail.isAbsolute
  · rwa [join, if_pos absolute]
  have parts : ∃ between, (path.join tail).text = path.text ++ between ++ tail.text ∧
      '\x00' ∉ between.toList := by
    rw [join, if_neg absolute]
    split
    · exact ⟨"", by rw [String.append_empty], List.not_mem_nil⟩
    · exact ⟨"/", rfl, by decide⟩
  rcases parts with ⟨between, text, slashClean⟩
  rw [text, String.utf8ByteSize_append, String.utf8ByteSize_append] at short
  simp only [isUsable, Bool.and_eq_true, Bool.not_eq_true', decide_eq_true_eq,
    String.isEmpty_eq_false_iff, List.contains_eq_mem, decide_eq_false_iff_not] at usable tailUsable
  rcases usable with ⟨⟨told, _⟩, clean⟩
  rcases tailUsable with ⟨_, tailClean⟩
  simp [isUsable, text, short, told, clean, slashClean, tailClean]

end FilePath

namespace Route

variable {stands : List String → Option Standing} {left spared : Nat}
  {place reached pieces : List String}

theorem directory_of_still (asks : pieces ≠ []) (still : movingPieces pieces = [])
    (followed : follow? (turn? stands .read) left place pieces = some (reached, spared)) :
    stands reached = some .directory := by
  induction pieces with
  | nil => exact absurd rfl asks
  | cons piece rest induction =>
      have stays : staysPut piece ∧ movingPieces rest = [] := by
        simpa [movingPieces, List.filter_eq_nil_iff] using still
      by_cases directory : stands place = some .directory
      · rw [follow?_cons, turn?_inPlace directory (.inl stays.1)] at followed
        simp only [FilePath.pass, stays.1, if_true] at followed
        by_cases last : rest = []
        · rw [last, follow?_nil] at followed
          cases followed
          exact directory
        · exact induction last stays.2 followed
      · rw [follow?_cons, turn?, if_pos directory] at followed
        cases followed

theorem follow?_names {names : List String} (ordinary : ∀ name ∈ names, IsOrdinary name)
    (directories : ∀ before, before <+: names → stands (place ++ before) = some .directory) :
    follow? (turn? stands .read) left place names = some (place ++ names, left) := by
  induction names generalizing place with
  | nil => rw [follow?_nil, List.append_nil]
  | cons name rest induction =>
      rw [List.forall_mem_cons] at ordinary
      have here : stands place = some .directory := by
        simpa using directories [] List.nil_prefix
      have below : stands (place ++ [name]) = some .directory :=
        directories [name] (List.prefix_append [name] rest)
      have goes : turn? stands .read place name rest = some .on := by
        rw [turn?_name here ordinary.1.goesOn, below]
        rfl
      rw [follow?_cons, goes, List.append_cons]
      simp only [pass_name ordinary.1.goesOn]
      apply induction ordinary.2
      intro before front
      rw [List.append_assoc]
      exact directories (name :: before) (List.cons_prefix_cons.mpr ⟨rfl, front⟩)

end Route

namespace Disk

open FileTree Route

variable {disk : Disk} {path : FilePath}

theorem steps_ne_nil_of_readText? {text : String} (read : disk.readText? path = some text) :
    path.steps ≠ [] := by
  intro still
  rw [readText?_eq] at read
  split at read
  · cases followed : follow? (turn? disk.tree.standing? .read) linkLimit
        (path.origin disk.workingDirectory) path.pieces with
    | none => simp [followed] at read
    | some reached =>
        have directory := directory_of_still path.pieces_ne_nil still followed
        simp [followed, contents, directory, Standing.contents?] at read
  · cases read

/-- The working directory as a path. -/
def home (disk : Disk) : FilePath :=
  ⟨"/" ++ (ofPieces disk.workingDirectory).text⟩

/-- The working directory is a directory of the disk, and its path can be asked for. -/
structure IsHome (disk : Disk) : Prop where
  proper : disk.tree.IsProper
  stands : ∃ members, disk.tree.at? disk.workingDirectory = some (.directory members)
  usable : disk.home.isUsable

theorem isAbsolute_home (disk : Disk) : disk.home.isAbsolute :=
  (rooted_eq _).1

theorem IsHome.directory (homely : disk.IsHome) :
    disk.tree.standing? disk.workingDirectory = some .directory :=
  standing?_eq_directory_iff.mpr homely.stands

theorem follow?_home (homely : disk.IsHome) :
    follow? (turn? disk.tree.standing? .read) linkLimit [] disk.home.pieces =
      some (disk.workingDirectory, linkLimit) := by
  rcases homely.stands with ⟨members, stands⟩
  have ordinary := homely.proper.ordinary_of_at? stands
  have around {before : List String} (front : before <+: disk.workingDirectory) :
      disk.tree.standing? before = some .directory := standing?_of_prefix front homely.directory
  have enter (pieces : List String) :
      follow? (turn? disk.tree.standing? .read) linkLimit [] ("" :: pieces) =
        follow? (turn? disk.tree.standing? .read) linkLimit [] pieces := by
    rw [follow?_cons, turn?_inPlace (around List.nil_prefix) (.inl rfl)]
    rfl
  rw [home, pieces_rooted, enter]
  by_cases top : disk.workingDirectory = []
  · rw [top, ← follow?_nil (turn? disk.tree.standing? .read) linkLimit []]
    exact enter []
  · rw [pieces_ofPieces top fun name member => (ordinary name member).slashFree]
    exact follow?_names ordinary fun before front => around front

theorem readText?_home_join {there : Disk} (homely : disk.IsHome) (same : there.tree = disk.tree)
    (short : (disk.home.join path).text.utf8ByteSize ≤ byteLimit) :
    there.readText? (disk.home.join path) = disk.readText? path := by
  by_cases absolute : path.isAbsolute
  · rw [join, if_pos absolute, readText?_eq, readText?_eq, same, origin, origin, if_pos absolute,
      if_pos absolute]
  rw [readText?_eq, readText?_eq, same, follow?_join _ _ _ absolute, origin,
    if_pos disk.isAbsolute_home, follow?_home homely, Option.bind_some,
    origin_of_relative absolute]
  by_cases empty : path.text = ""
  · -- The empty path cannot be asked for, and the joined path leads to a directory.
    have nowhere : path = ⟨""⟩ := congrArg FilePath.mk empty
    have unread : ¬ isUsable ⟨""⟩ := by decide
    have pieces : pieces ⟨""⟩ = [""] := rfl
    rw [nowhere, if_neg unread, pieces, follow?_cons, turn?_inPlace homely.directory (.inl rfl)]
    simp [FilePath.pass, staysPut, contents, homely.directory, Standing.contents?]
  · have usable : (disk.home.join path).isUsable = path.isUsable :=
      Bool.eq_iff_iff.mpr ⟨isUsable_of_join_tail empty,
        fun tailUsable => isUsable_join homely.usable tailUsable short⟩
    rw [usable]

end Disk

/-! ## Loading in a session -/

def Session.load (session : Session) (path : FilePath) : Except ConfigError Config :=
  (StateT.run (m := Id) (Config.load path) session).1

namespace Session

theorem run_load (session : Session) (path : FilePath) :
    StateT.run (m := Id) (Config.load path) session =
      (match session.disk.readText? path with
        | none => .error (.unreadable path)
        | some text => Config.ofFileText path text (some session.disk.home), session) := by
  have reads : StateT.run (Host.readText? (m := StateM Session) path) session =
      (session.disk.readText? path, session) := rfl
  rw [Config.load, StateT.run_bind, reads]
  cases session.disk.readText? path <;> rfl

theorem load_eq (session : Session) (path : FilePath) :
    session.load path =
      match session.disk.readText? path with
      | none => .error (.unreadable path)
      | some text => Config.ofFileText path text (some session.disk.home) :=
  congrArg Prod.fst (session.run_load path)

theorem loadedAs_of_load {session : Session} {path : FilePath} {loaded : Config}
    (succeeds : session.load path = .ok loaded) :
    ∃ text written directory, session.disk.readText? path = some text ∧
      Config.ofText? text = some written ∧
      (session.disk.home.join path).parent? = some directory ∧
      Config.LoadedAs directory written loaded := by
  rw [load_eq] at succeeds
  cases read : session.disk.readText? path with
  | none => simp [read] at succeeds
  | some text =>
      simp only [read] at succeeds
      rcases Config.loadedAs_of_ofFileText (Disk.steps_ne_nil_of_readText? read)
        session.disk.isAbsolute_home succeeds with ⟨written, directory, decoded, found, loadedAs⟩
      exact ⟨text, written, directory, rfl, decoded, found, loadedAs⟩

theorem positive_of_load (session : Session) {path : FilePath} {loaded : Config}
    (succeeds : session.load path = .ok loaded) (overrides : Overrides) :
    1 ≤ (loaded.override overrides).maxDepth := by
  rcases loadedAs_of_load succeeds with ⟨_, _, _, _, _, _, loadedAs⟩
  exact loadedAs.deep

theorem load_alike {session other : Session} {path : FilePath}
    (same : other.disk.readText? (session.disk.home.join path) = session.disk.readText? path) :
    Config.LoadedAlike (session.load path) (other.load (session.disk.home.join path)) := by
  rw [load_eq, load_eq, same]
  cases read : session.disk.readText? path with
  | none => exact .error (.unreadable _ _)
  | some text =>
      exact Config.ofFileText_alike text other.disk.home (Disk.steps_ne_nil_of_readText? read)
        session.disk.isAbsolute_home other.disk.isAbsolute_home

end Session

/-! ## Runs with a loaded configuration -/

namespace Generation

theorem run_lift_load (session : Session) (path : FilePath) :
    session.run (ExceptT.lift (Config.load path)) = (.ok (session.load path), session) := by
  rw [Session.run, ExceptT.run_lift, StateT.run_map, Session.load, session.run_load]
  rfl

theorem Yields.load (path : FilePath) (overrides : Overrides) :
    Yields (fun result => ∀ loaded, result = .ok loaded →
        1 ≤ (loaded.override overrides).maxDepth)
      (ExceptT.lift (Config.load path)) := by
  intro session
  rw [run_lift_load]
  intro loaded succeeds
  exact session.positive_of_load succeeds overrides

theorem Yields.run (overrides : Overrides) (path : FilePath) (verbosity : Verbosity) :
    Yields (fun _ => True) (Generation.run overrides path verbosity) := by
  apply (Yields.load path overrides).bind
  intro result deep
  cases result with
  | error error => exact Yields.throw (CommandError.sparesRoots_of_ne (by simp))
  | ok loaded =>
      apply (Yields.log verbosity _).bind
      intro _ _
      apply (Yields.generate (deep loaded rfl) verbosity).bind
      intro report _
      apply (Yields.printAll _).bind
      intro _ _
      exact .pure trivial

theorem Yields.execute (invocation : Invocation) :
    Yields (fun _ => True) (Program.execute invocation) := by
  rcases invocation with ⟨verbose, path, command⟩
  cases command with
  | generate overrides => exact Yields.run overrides path _
  | inspect file maxDepth compact => exact Yields.inspection file maxDepth compact _

/-- A generation under the configuration at a path came to a report, and the report is the last that
has been printed. -/
def Reports (session : Session) (overrides : Overrides) (path : FilePath) (verbosity : Verbosity)
    (report : Report) (left : Session) : Prop :=
  ∃ (loaded : Config) (before after : Session),
    session.load path = .ok loaded ∧ before.disk = session.disk ∧
    before.run (generate (loaded.override overrides) verbosity) = (.ok report, after) ∧
    left.printed = after.printed ++ report.lines (loaded.override overrides).outputDir

theorem reports_of_run {session left : Session} {overrides : Overrides} {path : FilePath}
    {verbosity : Verbosity} {exitCode : Nat}
    (ran : session.run (Generation.run overrides path verbosity) = (.ok exitCode, left)) :
    ∃ report, Reports session overrides path verbosity report left ∧
      report.exitCode = exitCode := by
  rw [Generation.run, Session.run_bind, run_lift_load] at ran
  cases succeeds : session.load path with
  | error error =>
      simp only [succeeds] at ran
      cases ran
  | ok loaded =>
      simp only [succeeds] at ran
      rcases Session.run_bind_eq_ok.mp ran with ⟨_, before, logged, ran⟩
      rcases Session.run_bind_eq_ok.mp ran with ⟨report, after, generated, ran⟩
      rw [Session.run_bind, Session.run_printAll] at ran
      cases ran
      have sameDisk : before.disk = session.disk := by
        rcases Ends.log verbosity _ session.disk session.printed with ⟨more, same⟩
        cases logged.symm.trans same
        rfl
      exact ⟨report, ⟨loaded, before, after, succeeds, sameDisk, generated, rfl⟩, rfl⟩

theorem Reports.sparesRoots {session left : Session} {overrides : Overrides} {path : FilePath}
    {verbosity : Verbosity} {report : Report}
    (reports : Reports session overrides path verbosity report left) : report.SparesRoots := by
  rcases reports with ⟨loaded, before, after, succeeds, _, generated, _⟩
  have spared := Yields.generate (session.positive_of_load succeeds overrides) verbosity before
  rwa [generated] at spared

end Generation

namespace Config

/-- What is loaded can be used, and the working directory leaves no trace in it; and so no command
reports that a root is too deep, an inspection because it has a check of its own. -/
theorem loaded_usable_anywhere :
    (∀ (session : Session) (path : FilePath) (loaded : Config),
      session.load path = .ok loaded →
        ∃ text written directory, session.disk.readText? path = some text ∧
          ofText? text = some written ∧
          (session.disk.home.join path).parent? = some directory ∧
          LoadedAs directory written loaded) ∧
    (∀ (session other : Session) (path : FilePath),
      other.disk.readText? (session.disk.home.join path) = session.disk.readText? path →
        LoadedAlike (session.load path) (other.load (session.disk.home.join path))) ∧
    (∀ (session other : Session) (path : FilePath),
      session.disk.IsHome → other.disk.tree = session.disk.tree →
        (session.disk.home.join path).text.utf8ByteSize ≤ byteLimit →
        LoadedAlike (session.load path) (other.load (session.disk.home.join path))) ∧
    (∀ (session left : Session) (invocation : Invocation) (error : CommandError),
      session.run (Program.execute invocation) = (.error error, left) → error.SparesRoots) ∧
    (∀ (session left : Session) (overrides : Overrides) (path : FilePath) (verbosity : Verbosity)
      (exitCode : Nat),
      session.run (Generation.run overrides path verbosity) = (.ok exitCode, left) →
        ∃ report, Generation.Reports session overrides path verbosity report left ∧
          report.exitCode = exitCode ∧ report.SparesRoots) ∧
    ∀ (session : Session) (path : FilePath) (loaded : Config) (overrides : Overrides),
      session.load path = .ok loaded → ∀ (disk : Disk) (file : FilePath) (error : CompileError),
        Generation.compileAt disk (loaded.override overrides).maxDepth file = .error error →
          ¬ error.IsShallowCeiling := by
  refine ⟨?_, ?_, ?_, ?_, ?_, ?_⟩
  · intro session path loaded succeeds
    exact Session.loadedAs_of_load succeeds
  · intro session other path same
    exact Session.load_alike same
  · intro session other path homely same short
    exact Session.load_alike (Disk.readText?_home_join homely same short)
  · intro session left invocation error ran
    have spared := Generation.Yields.execute invocation session
    rwa [ran] at spared
  · intro session left overrides path verbosity exitCode ran
    rcases Generation.reports_of_run ran with ⟨report, reports, exits⟩
    exact ⟨report, reports, exits, reports.sparesRoots⟩
  · intro session path loaded overrides succeeds disk file error failed
    have placed := Generation.compileAt_failsOnly disk _ file error failed
    exact placed.not_isShallowCeiling (session.positive_of_load succeeds overrides)

def workTree : FileTree :=
  .directory [("work", .directory [
    ("tfpgen.yaml", .file (some "moduleName: m\nschemasDir: in\n"))])]

def workSession : Session where
  disk := { tree := workTree, workingDirectory := ["work"] }

def rootSession : Session where
  disk := { tree := workTree }

theorem workTree_isProper : workTree.IsProper := by
  refine .directory (by decide) (by decide) (List.forall_mem_singleton.mpr ?_)
  exact .directory (by decide) (by decide) (List.forall_mem_singleton.mpr (.file _))

/-- The leading dot stays in a directory only where the path is relative. -/
theorem workSession_loaded :
    ∃ left right, workSession.load ⟨"./tfpgen.yaml"⟩ = .ok left ∧
      rootSession.load ⟨"/work/./tfpgen.yaml"⟩ = .ok right ∧ left.Alike right ∧
      left.schemasDir = ⟨"/work/./in"⟩ ∧ right.schemasDir = ⟨"/work/in"⟩ := by
  have here : workSession.load ⟨"./tfpgen.yaml"⟩ = .ok
      { moduleName := "m", schemasDir := ⟨"/work/./in"⟩, outputDir := ⟨"/work/./"⟩ } := by
    decide +kernel
  have there : rootSession.load ⟨"/work/./tfpgen.yaml"⟩ = .ok
      { moduleName := "m", schemasDir := ⟨"/work/in"⟩, outputDir := ⟨"/work/"⟩ } := by
    decide +kernel
  have homely : workSession.disk.IsHome := ⟨workTree_isProper, ⟨_, rfl⟩, by decide⟩
  have joined : workSession.disk.home.join ⟨"./tfpgen.yaml"⟩ = ⟨"/work/./tfpgen.yaml"⟩ := by decide
  rcases loaded_usable_anywhere with ⟨_, _, alike, _⟩
  have both := alike workSession rootSession ⟨"./tfpgen.yaml"⟩ homely rfl (by rw [joined]; decide)
  rw [joined, here, there] at both
  cases both with
  | ok alike => exact ⟨_, _, here, there, alike, rfl, rfl⟩

end Config

end CrdCompiler
