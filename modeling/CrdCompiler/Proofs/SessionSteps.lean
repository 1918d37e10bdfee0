import CrdCompiler.Generation
import CrdCompiler.Proofs.DiskChanges
import CrdCompiler.Proofs.Outcome
import CrdCompiler.Session

/-! # Steps in a session

What one step of a run does to the disk of a session when nothing is refused. Printing and logging
touch no file, so a step is told by its value and by the disk it leaves.
-/

namespace CrdCompiler

variable {α β : Type}

def Session.run (session : Session) (step : Generation.Step (StateM Session) α) :
    Except CommandError α × Session :=
  StateT.run (ExceptT.run step) session

theorem Session.run_bind (session : Session) (step : Generation.Step (StateM Session) α)
    (next : α → Generation.Step (StateM Session) β) :
    session.run (step >>= next) =
      match session.run step with
      | (.ok value, left) => left.run (next value)
      | (.error error, left) => (.error error, left) := by
  rw [run, ExceptT.run_bind, StateT.run_bind, run]
  generalize StateT.run (ExceptT.run step) session = ran
  rcases ran with ⟨outcome, left⟩
  cases outcome <;> rfl

theorem Session.run_bind_eq_ok {session left : Session}
    {step : Generation.Step (StateM Session) α}
    {next : α → Generation.Step (StateM Session) β} {result : β} :
    session.run (step >>= next) = (.ok result, left) ↔
      ∃ value mid, session.run step = (.ok value, mid) ∧
        mid.run (next value) = (.ok result, left) := by
  rw [run_bind]
  generalize session.run step = ran
  rcases ran with ⟨outcome, mid⟩
  cases outcome <;> simp

theorem Session.run_printAll (session : Session) (lines : List String) :
    session.run (lines.forM Generation.print) =
      (.ok (), { session with printed := session.printed ++ lines }) := by
  induction lines generalizing session with
  | nil =>
      rw [List.append_nil]
      rfl
  | cons line rest induction =>
      have first : session.run (Generation.print line) =
          (.ok (), { session with printed := session.printed ++ [line] }) := rfl
      rw [List.forM, run_bind, first, List.append_cons session.printed line rest]
      exact induction _

theorem Session.run_insist (session : Session) (action : StateM Session Bool)
    (error : CommandError) :
    session.run (Generation.insist action error) =
      match action.run session with
      | (true, left) => (.ok (), left)
      | (false, left) => (.error error, left) := by
  rw [run, Generation.insist, ExceptT.run_bind, StateT.run_bind, ExceptT.run_lift, StateT.run_map]
  generalize StateT.run action session = ran
  rcases ran with ⟨answer, left⟩
  cases answer <;> rfl

namespace Generation

def Ends (step : Step (StateM Session) α) (disk : Disk) (value : α) (left : Disk) : Prop :=
  ∀ printed, ∃ more, Session.run ⟨disk, printed⟩ step = (.ok value, ⟨left, more⟩)

namespace Ends

variable {disk mid left : Disk}

theorem pure (value : α) (disk : Disk) : Ends (pure value) disk value disk :=
  fun printed => ⟨printed, rfl⟩

theorem bind {step : Step (StateM Session) α} {next : α → Step (StateM Session) β} {value : α}
    {result : β} (first : Ends step disk value mid) (second : Ends (next value) mid result left) :
    Ends (step >>= next) disk result left := by
  intro printed
  rcases first printed with ⟨more, ran⟩
  rcases second more with ⟨most, continued⟩
  refine ⟨most, ?_⟩
  rw [Session.run_bind, ran]
  exact continued

theorem log (verbosity : Verbosity) (entry : LogEntry) (disk : Disk) :
    Ends (Generation.log verbosity entry) disk () disk := by
  intro printed
  unfold Generation.log Host.log
  split
  · exact ⟨printed ++ [entry.text], rfl⟩
  · exact ⟨printed, rfl⟩

theorem logAll (verbosity : Verbosity) (notices : List Notice) (disk : Disk) :
    Ends (notices.forM fun notice => Generation.log verbosity notice.logEntry) disk () disk := by
  induction notices with
  | nil => exact .pure () disk
  | cons notice rest induction => exact (Ends.log verbosity notice.logEntry disk).bind induction

theorem insist {action : StateM Session Bool} {error : CommandError}
    (succeeds : ∀ printed, action.run ⟨disk, printed⟩ = (true, ⟨left, printed⟩)) :
    Ends (Generation.insist action error) disk () left := by
  intro printed
  refine ⟨printed, ?_⟩
  rw [Session.run_insist, succeeds]

theorem createDirectories {path : FilePath} (made : (disk.createDirectories path).2) :
    Ends (Generation.createDirectories path) disk () (disk.createDirectories path).1 :=
  insist fun _ => Prod.ext made rfl

theorem writeText {path : FilePath} {text : String} (written : (disk.writeText path text).2) :
    Ends (Generation.writeText path text) disk () (disk.writeText path text).1 :=
  insist fun _ => Prod.ext written rfl

end Ends

def Fails (step : Step (StateM Session) α) (disk : Disk) : Prop :=
  ∀ printed, ∃ error left, Session.run ⟨disk, printed⟩ step = (.error error, left)

theorem Fails.bind {step : Step (StateM Session) α} {disk : Disk} (fails : Fails step disk)
    (next : α → Step (StateM Session) β) : Fails (step >>= next) disk := by
  intro printed
  rcases fails printed with ⟨error, left, ran⟩
  refine ⟨error, left, ?_⟩
  rw [Session.run_bind, ran]

theorem Ends.bind_fails {step : Step (StateM Session) α} {next : α → Step (StateM Session) β}
    {value : α} {disk mid : Disk} (first : Ends step disk value mid)
    (fails : Fails (next value) mid) : Fails (step >>= next) disk := by
  intro printed
  rcases first printed with ⟨more, ran⟩
  rcases fails more with ⟨error, left, continued⟩
  refine ⟨error, left, ?_⟩
  rw [Session.run_bind, ran]
  exact continued

theorem Fails.insist {action : StateM Session Bool} {disk : Disk}
    (refuses : ∀ printed, (action.run ⟨disk, printed⟩).1 = false) (error : CommandError) :
    Fails (Generation.insist action error) disk := by
  intro printed
  refine ⟨error, (action.run ⟨disk, printed⟩).2, ?_⟩
  have refused : action.run ⟨disk, printed⟩ = (false, (action.run ⟨disk, printed⟩).2) :=
    Prod.ext (refuses printed) rfl
  rw [Session.run_insist, refused]

theorem Fails.createDirectories {path : FilePath} {disk : Disk}
    (refused : ¬ (disk.createDirectories path).2) :
    Fails (Generation.createDirectories path) disk := by
  apply Fails.insist
  intro _
  exact eq_false_of_ne_true refused

theorem Fails.writeText {path : FilePath} {text : String} {disk : Disk}
    (refused : ¬ (disk.writeText path text).2) :
    Fails (Generation.writeText path text) disk := by
  apply Fails.insist
  intro _
  exact eq_false_of_ne_true refused

/-! ## Steps of a generation -/

def listing (disk : Disk) (directory : FilePath) : Except CommandError (List FilePath) :=
  match disk.tree? directory, disk.entry? directory with
  | some tree, some entry => .ok (filesFrom directory tree entry)
  | _, _ => .error (.walking directory)

theorem run_schemaFiles (session : Session) (directory : FilePath) :
    session.run (schemaFiles directory) = (listing session.disk directory, session) := by
  have reads : session.run (ExceptT.lift (Host.tree? directory)) =
      (.ok (session.disk.tree? directory), session) := rfl
  have looks : session.run (ExceptT.lift (Host.entry? directory)) =
      (.ok (session.disk.entry? directory), session) := rfl
  rw [schemaFiles, Session.run_bind, reads]
  dsimp only
  rw [Session.run_bind, looks, listing]
  cases session.disk.tree? directory with
  | none => rfl
  | some tree => cases session.disk.entry? directory <;> rfl

theorem schemaFiles_ends {session : Session} {directory : FilePath} {files : List FilePath}
    (listed : (session.run (schemaFiles directory)).1 = .ok files) :
    Ends (schemaFiles directory) session.disk files session.disk := by
  intro printed
  rw [run_schemaFiles] at listed
  refine ⟨printed, ?_⟩
  rw [run_schemaFiles]
  exact Prod.ext listed rfl

theorem schemaFiles_fails {session : Session} {directory : FilePath} {error : CommandError}
    (unlisted : (session.run (schemaFiles directory)).1 = .error error) :
    Fails (schemaFiles directory) session.disk := by
  intro printed
  rw [run_schemaFiles] at unlisted
  refine ⟨error, ⟨session.disk, printed⟩, ?_⟩
  rw [run_schemaFiles]
  exact Prod.ext unlisted rfl

def compileAt (disk : Disk) (maxDepth : Nat) (file : FilePath) : Except CompileError Document :=
  match disk.readText? file with
  | none => .error (.unreadable file.text .unreadable)
  | some text => compileText text file.text maxDepth

theorem compileFile_ends (file : FilePath) (maxDepth : Nat) (verbosity : Verbosity) (disk : Disk) :
    Ends (compileFile file maxDepth verbosity) disk (compileAt disk maxDepth file) disk := by
  have reads : Ends (ExceptT.lift (Host.readText? file)) disk (disk.readText? file) disk :=
    fun printed => ⟨printed, rfl⟩
  apply reads.bind
  unfold compileAt
  cases disk.readText? file with
  | none => exact .pure _ disk
  | some text =>
      cases read : readDefinition text file.text with
      | error error =>
          simp only [read, compileText, Outcome.error_bind]
          exact .pure _ disk
      | ok definition =>
          simp only [read, compileText, Outcome.ok_bind]
          exact (Ends.logAll verbosity _ disk).bind (.pure _ disk)

variable {config : Config}

def documentPath (config : Config) (document : Document) : FilePath :=
  Document.path config.outputDir document.packageIdentifier

def roomFor (config : Config) (disk : Disk) (document : Document) : Disk :=
  (disk.createDirectories (Document.directory config.outputDir document.packageIdentifier)).1

def stored (config : Config) (disk : Disk) (document : Document) : Disk :=
  ((roomFor config disk document).writeText (documentPath config document)
    (document.fileText config.moduleName)).1

/-- Neither the directory nor the file of a document is refused. -/
structure Storable (config : Config) (disk : Disk) (document : Document) : Prop where
  directory :
    (disk.createDirectories (Document.directory config.outputDir document.packageIdentifier)).2
  file : ((roomFor config disk document).writeText (documentPath config document)
    (document.fileText config.moduleName)).2

instance (config : Config) (disk : Disk) (document : Document) :
    Decidable (Storable config disk document) :=
  decidable_of_iff
    ((disk.createDirectories (Document.directory config.outputDir document.packageIdentifier)).2 ∧
      ((roomFor config disk document).writeText (documentPath config document)
        (document.fileText config.moduleName)).2)
    ⟨fun holds => ⟨holds.1, holds.2⟩, fun storable => ⟨storable.directory, storable.file⟩⟩

theorem writeDocument_ends {disk : Disk} {document : Document} {verbosity : Verbosity}
    (storable : Storable config disk document) :
    Ends (writeDocument config document verbosity) disk () (stored config disk document) := by
  apply (Ends.createDirectories storable.directory).bind
  apply (Ends.writeText storable.file).bind
  exact .log verbosity _ _

theorem writeDocument_fails {disk : Disk} {document : Document}
    (refused : ¬ Storable config disk document) (verbosity : Verbosity) :
    Fails (writeDocument config document verbosity) disk := by
  by_cases directory : (disk.createDirectories
      (Document.directory config.outputDir document.packageIdentifier)).2
  · apply (Ends.createDirectories directory).bind_fails
    apply (Fails.writeText _).bind
    intro file
    exact refused ⟨directory, file⟩
  · exact (Fails.createDirectories directory).bind _

theorem contents_stored {disk : Disk} {document : Document}
    (storable : Storable config disk document) :
    ∃ place, disk.place? (documentPath config document) = some place ∧
      (stored config disk document).tree.contents =
        Function.update disk.tree.contents place
          (some (some (document.fileText config.moduleName))) := by
  rcases Disk.contents_writeText storable.file with ⟨place, leads, contents⟩
  rw [roomFor, Disk.place?_createDirectories] at leads
  refine ⟨place, leads, ?_⟩
  rw [stored, contents, roomFor, Disk.contents_createDirectories]

@[simp] theorem place?_stored (disk : Disk) (document : Document) (path : FilePath) :
    (stored config disk document).place? path = disk.place? path := by
  rw [stored, Disk.place?_writeText, roomFor, Disk.place?_createDirectories]

theorem eraseDups_append_singleton (known : List String) (package : String) :
    (known ++ [package]).eraseDups =
      if package ∈ known then known.eraseDups else known.eraseDups ++ [package] := by
  by_cases again : package ∈ known
  · simp [List.eraseDups_append, List.removeAll, again]
  · simp [List.eraseDups_append, List.removeAll, List.eraseDups_cons, again]

theorem recordPackage_ends {report : Report} {known : List String}
    (recorded : report.packages = known.eraseDups) (package : String) (file : FilePath)
    (verbosity : Verbosity) (disk : Disk) :
    Ends (recordPackage report package file verbosity) disk
      { report with packages := (known ++ [package]).eraseDups } disk := by
  unfold recordPackage
  rw [eraseDups_append_singleton]
  by_cases again : package ∈ known
  · rw [if_pos (by simpa [recorded] using again), if_pos again, ← recorded]
    exact (Ends.log verbosity _ disk).bind (.pure report disk)
  · rw [if_neg (by simpa [recorded] using again), if_neg again, ← recorded]
    exact .pure _ disk

end Generation

end CrdCompiler
