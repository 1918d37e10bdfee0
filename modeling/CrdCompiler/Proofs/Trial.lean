import CrdCompiler.Proofs.SessionSteps

/-! # Trials

A trial is a session whose surroundings may refuse any change to its files; the places of all texts
that are written are put on record. A step in a trial goes well or ends the run, and either way the
record tells all that has happened to files: a text stands at each place on it, and what stands
elsewhere is as before.
-/

namespace CrdCompiler

/-- A session with what awaits its next attempts to change files, one flag for each: whether it is
refused. After the last flag the session decides alone. -/
structure Trial where
  session : Session := {}
  refusals : List Bool := []
  written : List (List String) := []

namespace Trial

variable {α β : Type}

def workingDirectory (trial : Trial) : List String :=
  trial.session.disk.workingDirectory

def contents (trial : Trial) (place : List String) : Option (Option String) :=
  trial.session.disk.tree.contents place

def links (trial : Trial) (place : List String) : Option FilePath :=
  trial.session.disk.tree.links place

def place? (trial : Trial) (path : FilePath) : Option (List String) :=
  path.place? trial.links trial.workingDirectory

def lift (action : StateM Session α) : StateM Trial α := fun trial =>
  let (answer, session) := action trial.session
  (answer, { trial with session })

def attempt (action : StateM Session Bool) : StateM Trial Bool := fun trial =>
  match trial.refusals with
  | true :: refusals => (false, { trial with refusals })
  | refusals => lift action { trial with refusals := refusals.tail }

def write (path : FilePath) (text : String) : StateM Trial Bool := fun trial =>
  match attempt (Host.writeText path text) trial with
  | (true, left) =>
    (true, { left with written := left.written ++ (trial.session.disk.target? path).toList })
  | (false, left) => (false, left)

instance : Host (StateM Trial) where
  workingDirectory? := lift Host.workingDirectory?
  readText? path := lift (Host.readText? path)
  tree? path := lift (Host.tree? path)
  entry? path := lift (Host.entry? path)
  createDirectories path := attempt (Host.createDirectories path)
  writeText := write
  print text := lift (Host.print text)

def run (trial : Trial) (step : Generation.Step (StateM Trial) α) :
    Except CommandError α × Trial :=
  StateT.run (ExceptT.run step) trial

theorem run_pure (trial : Trial) (value : α) : trial.run (pure value) = (.ok value, trial) :=
  rfl

theorem run_bind (trial : Trial) (step : Generation.Step (StateM Trial) α)
    (next : α → Generation.Step (StateM Trial) β) :
    trial.run (step >>= next) =
      match trial.run step with
      | (.ok value, left) => left.run (next value)
      | (.error error, left) => (.error error, left) := by
  rw [run, ExceptT.run_bind, StateT.run_bind, run]
  generalize StateT.run (ExceptT.run step) trial = ran
  rcases ran with ⟨outcome, left⟩
  cases outcome <;> rfl

theorem run_insist (trial : Trial) (action : StateM Trial Bool) (error : CommandError) :
    trial.run (Generation.insist action error) =
      match action.run trial with
      | (true, left) => (.ok (), left)
      | (false, left) => (.error error, left) := by
  rw [run, Generation.insist, ExceptT.run_bind, StateT.run_bind, ExceptT.run_lift, StateT.run_map]
  generalize StateT.run action trial = ran
  rcases ran with ⟨answer, left⟩
  cases answer <;> rfl

/-! ## The record -/

/-- From one moment of a trial to a later one, texts were written to the given places, and nothing
else happened to files. -/
structure Wrote (places : List (List String)) (before after : Trial) : Prop where
  workingDirectory : after.workingDirectory = before.workingDirectory
  links : after.links = before.links
  recorded : after.written = before.written ++ places
  stored : ∀ place ∈ places, (after.contents place).isSome
  others : ∀ place, place ∉ places → after.contents place = before.contents place

namespace Wrote

variable {places more : List (List String)} {before between after : Trial}

theorem nothing (workingDirectory : after.workingDirectory = before.workingDirectory)
    (links : after.links = before.links) (recorded : after.written = before.written)
    (contents : after.contents = before.contents) : Wrote [] before after where
  workingDirectory := workingDirectory
  links := links
  recorded := by rw [recorded, List.append_nil]
  stored _ member := absurd member List.not_mem_nil
  others _ _ := by rw [contents]

theorem text {place : List String} {text : String}
    (workingDirectory : after.workingDirectory = before.workingDirectory)
    (links : after.links = before.links) (recorded : after.written = before.written ++ [place])
    (contents : after.contents = Function.update before.contents place (some (some text))) :
    Wrote [place] before after where
  workingDirectory := workingDirectory
  links := links
  recorded := recorded
  stored other member := by
    rw [List.mem_singleton] at member
    rw [contents, member, Function.update_self]
    rfl
  others other elsewhere := by
    rw [List.mem_singleton] at elsewhere
    rw [contents, Function.update_of_ne elsewhere]

theorem trans (first : Wrote places before between) (second : Wrote more between after) :
    Wrote (places ++ more) before after where
  workingDirectory := second.workingDirectory.trans first.workingDirectory
  links := second.links.trans first.links
  recorded := by rw [second.recorded, first.recorded, List.append_assoc]
  stored place member := by
    by_cases again : place ∈ more
    · exact second.stored place again
    · rw [second.others place again]
      exact first.stored place ((List.mem_append.mp member).resolve_right again)
  others place elsewhere := by
    rw [List.mem_append, not_or] at elsewhere
    exact (second.others place elsewhere.2).trans (first.others place elsewhere.1)

theorem place?_eq (wrote : Wrote places before after) (path : FilePath) :
    after.place? path = before.place? path := by
  rw [place?, place?, wrote.links, wrote.workingDirectory]

theorem standing (wrote : Wrote places before after) {place : List String}
    (stands : (before.contents place).isSome) : (after.contents place).isSome := by
  by_cases rewritten : place ∈ places
  · exact wrote.stored place rewritten
  · rw [wrote.others place rewritten]
    exact stands

end Wrote

/-! ## Attempts -/

theorem attempt_cases (action : StateM Session Bool) (trial : Trial) :
    (∃ refusals, attempt action trial = (false, { trial with refusals })) ∨
      ∃ refusals, attempt action trial =
        ((action trial.session).1,
          { trial with session := (action trial.session).2, refusals }) := by
  unfold attempt lift
  split
  · exact .inl ⟨_, rfl⟩
  · exact .inr ⟨_, rfl⟩

theorem wrote_createDirectories (path : FilePath) (trial : Trial) :
    Wrote [] trial (attempt (Host.createDirectories path) trial).2 := by
  rcases attempt_cases (Host.createDirectories path) trial with ⟨_, refused⟩ | ⟨_, decided⟩
  · rw [refused]
    exact .nothing rfl rfl rfl rfl
  · rw [decided]
    apply Wrote.nothing
    · exact Disk.workingDirectory_createDirectories ..
    · exact Disk.links_createDirectories ..
    · rfl
    · exact Disk.contents_createDirectories ..

theorem write_cases (path : FilePath) (text : String) (trial : Trial) :
    (∃ place left, write path text trial = (true, left) ∧ trial.place? path = some place ∧
        Wrote [place] trial left ∧ left.contents place = some (some text)) ∨
      ∃ left, write path text trial = (false, left) ∧ Wrote [] trial left := by
  unfold write
  rcases attempt_cases (Host.writeText path text) trial with ⟨_, refused⟩ | ⟨_, decided⟩
  · rw [refused]
    exact .inr ⟨_, rfl, .nothing rfl rfl rfl rfl⟩
  · have answered : (Host.writeText path text : StateM Session Bool) trial.session =
        ((trial.session.disk.writeText path text).2,
          { trial.session with disk := (trial.session.disk.writeText path text).1 }) := rfl
    have links := Disk.links_writeText trial.session.disk path text
    rw [decided, answered]
    cases written : (trial.session.disk.writeText path text).2 with
    | true =>
        rcases Disk.exists_target_of_written written with ⟨place, targeted⟩
        have contents := Disk.contents_writeText_of_target? targeted text
        refine .inl ⟨place, _, rfl, Disk.place?_of_target? targeted, .text ?_ links ?_ contents, ?_⟩
        · exact Disk.workingDirectory_writeText ..
        · rw [targeted]
          rfl
        · exact (congrFun contents _).trans (Function.update_self ..)
    | false =>
        refine .inr ⟨_, rfl, .nothing ?_ links rfl ?_⟩
        · exact Disk.workingDirectory_writeText ..
        · exact congrArg (·.tree.contents) (Disk.writeText_of_refused written)

theorem run_createDirectories (path : FilePath) (trial : Trial) :
    trial.run (Generation.createDirectories path) =
      match attempt (Host.createDirectories path) trial with
      | (true, left) => (.ok (), left)
      | (false, left) => (.error (.creating path), left) :=
  run_insist trial (Host.createDirectories path) _

/-- A text is written to its place, or the step fails and nothing is. -/
theorem run_writeText_cases (path : FilePath) (text : String) (trial : Trial) :
    (∃ place left, trial.run (Generation.writeText path text) = (.ok (), left) ∧
        trial.place? path = some place ∧ Wrote [place] trial left ∧
        left.contents place = some (some text)) ∨
      ∃ left, trial.run (Generation.writeText path text) = (.error (.writing path), left) ∧
        Wrote [] trial left := by
  have ran : trial.run (Generation.writeText path text) =
      match write path text trial with
      | (true, left) => (.ok (), left)
      | (false, left) => (.error (.writing path), left) :=
    run_insist trial (Host.writeText path text) _
  rw [ran]
  rcases write_cases path text trial with ⟨place, left, written, wrote⟩ | ⟨left, refused, wrote⟩
  · rw [written]
    exact .inl ⟨place, left, rfl, wrote⟩
  · rw [refused]
    exact .inr ⟨left, rfl, wrote⟩

/-! ## Steps -/

/-- However it ends, the step writes to allowed places only; what it returns, if it returns, fits
the trial that it leaves. -/
structure Writes (allowed : List String → Prop) (step : Generation.Step (StateM Trial) α)
    (trial : Trial) (Fits : α → Trial → Prop) : Prop where
  wrote : ∃ places, Wrote places trial (trial.run step).2 ∧ ∀ place ∈ places, allowed place
  returns : ∀ value, (trial.run step).1 = .ok value → Fits value (trial.run step).2

namespace Writes

variable {allowed : List String → Prop} {trial : Trial} {Fits : α → Trial → Prop}

theorem of_nothing {step : Generation.Step (StateM Trial) α}
    (wrote : Wrote [] trial (trial.run step).2)
    (returns : ∀ value, (trial.run step).1 = .ok value → Fits value (trial.run step).2) :
    Writes allowed step trial Fits :=
  ⟨⟨[], wrote, fun _ member => absurd member List.not_mem_nil⟩, returns⟩

theorem pure {value : α} (fits : Fits value trial) :
    Writes allowed (Pure.pure value) trial Fits := by
  apply of_nothing (.nothing rfl rfl rfl rfl)
  intro _ equal
  cases equal
  exact fits

theorem throw (error : CommandError) :
    Writes allowed (MonadExcept.throw error) trial Fits := by
  apply of_nothing (.nothing rfl rfl rfl rfl)
  intro _ impossible
  cases impossible

theorem bind {step : Generation.Step (StateM Trial) α}
    {next : α → Generation.Step (StateM Trial) β} {Fits' : β → Trial → Prop}
    (first : Writes allowed step trial Fits)
    (continued : ∀ value left places, Wrote places trial left → Fits value left →
      Writes allowed (next value) left Fits') : Writes allowed (step >>= next) trial Fits' := by
  rcases first with ⟨⟨places, wrote, within⟩, returns⟩
  have steps := run_bind trial step next
  generalize trial.run step = ran at wrote returns steps
  rcases ran with ⟨outcome, left⟩
  cases outcome with
  | error error =>
      refine ⟨⟨places, ?_, within⟩, ?_⟩ <;> rw [steps]
      · exact wrote
      · intro _ impossible
        cases impossible
  | ok value =>
      rcases continued value left places wrote (returns value rfl) with
        ⟨⟨more, wroteMore, withinMore⟩, returnsLast⟩
      refine ⟨⟨places ++ more, ?_, ?_⟩, ?_⟩
      · rw [steps]
        exact wrote.trans wroteMore
      · intro place member
        exact (List.mem_append.mp member).elim (within place) (withinMore place)
      · rw [steps]
        exact returnsLast

theorem imp {step : Generation.Step (StateM Trial) α} {Fits' : α → Trial → Prop}
    (writes : Writes allowed step trial Fits)
    (weaker : ∀ value left places, Wrote places trial left → Fits value left → Fits' value left) :
    Writes allowed step trial Fits' := by
  refine ⟨writes.wrote, ?_⟩
  rcases writes.wrote with ⟨places, wrote, _⟩
  intro value returned
  exact weaker value _ places wrote (writes.returns value returned)

theorem lift {action : StateM Trial α} (spares : Wrote [] trial (StateT.run action trial).2) :
    Writes allowed (ExceptT.lift action) trial fun _ _ => True :=
  of_nothing spares fun _ _ => trivial

theorem log (verbosity : Verbosity) (entry : LogEntry) (trial : Trial) :
    Writes allowed (Generation.log verbosity entry) trial fun _ _ => True := by
  apply lift
  unfold Host.log
  split <;> exact .nothing rfl rfl rfl rfl

theorem logAll (verbosity : Verbosity) (notices : List Notice) (trial : Trial) :
    Writes allowed (notices.forM fun notice => Generation.log verbosity notice.logEntry) trial
      fun _ _ => True := by
  induction notices generalizing trial with
  | nil => exact .pure trivial
  | cons notice rest induction =>
      exact (Writes.log verbosity notice.logEntry trial).bind fun _ left _ _ _ => induction left

theorem createDirectories (path : FilePath) (trial : Trial) :
    Writes allowed (Generation.createDirectories path) trial fun _ _ => True := by
  refine of_nothing ?_ fun _ _ => trivial
  have spared := wrote_createDirectories path trial
  rw [run_createDirectories]
  generalize attempt (Host.createDirectories path) trial = attempted at spared
  rcases attempted with ⟨answer, left⟩
  cases answer <;> exact spared

theorem writeText {path : FilePath} (text : String)
    (permitted : ∀ place ∈ trial.place? path, allowed place) :
    Writes allowed (Generation.writeText path text) trial fun _ left =>
      ∃ place, trial.place? path = some place ∧ place ∈ left.written ∧
        (left.contents place).isSome := by
  rcases run_writeText_cases path text trial with
    ⟨place, left, ran, leads, wrote, _⟩ | ⟨left, ran, wrote⟩
  · have itself := List.mem_singleton_self place
    refine ⟨⟨[place], ?_, ?_⟩, ?_⟩
    · rw [ran]
      exact wrote
    · intro other member
      rw [List.mem_singleton.mp member]
      exact permitted place leads
    · intro _ _
      rw [ran, wrote.recorded]
      exact ⟨place, leads, List.mem_append_right _ itself, wrote.stored _ itself⟩
  · apply of_nothing
    · rw [ran]
      exact wrote
    · rw [ran]
      intro _ impossible
      cases impossible

end Writes

end Trial

end CrdCompiler
