import CrdCompiler.Proofs.TrialRuns

/-! # Trials that refuse nothing

In a trial that refuses nothing, the generator does to the session what it does in the session
alone; the record tells the places of all documents that the report counts, and of the manifest.
-/

namespace CrdCompiler

namespace Trial

open Generation

variable {α β : Type}

def Does (action : StateM Trial α) (inSession : StateM Session α) : Prop :=
  ∀ trial : Trial, trial.refusals = [] → ∃ written, action.run trial =
    ((inSession.run trial.session).1,
      { trial with session := (inSession.run trial.session).2, written })

theorem Does.lift (action : StateM Session α) : Does (lift action) action :=
  fun trial _ => ⟨trial.written, rfl⟩

theorem attempt_of_willing (action : StateM Session Bool) {trial : Trial}
    (willing : trial.refusals = []) : attempt action trial = lift action trial := by
  unfold attempt
  rw [willing]
  exact congrArg (lift action) (congrArg (Trial.mk _ · _) willing.symm)

theorem Does.createDirectories (path : FilePath) :
    Does (Host.createDirectories path) (Host.createDirectories path) :=
  fun trial willing => ⟨trial.written, attempt_of_willing _ willing⟩

theorem Does.writeText (path : FilePath) (text : String) :
    Does (Host.writeText path text) (Host.writeText path text) := by
  intro trial willing
  have attempted := attempt_of_willing (Host.writeText path text) willing
  have answered : Trial.lift (Host.writeText path text) trial =
      ((StateT.run (Host.writeText path text : StateM Session Bool) trial.session).1,
        { trial with
          session := (StateT.run (Host.writeText path text : StateM Session Bool)
            trial.session).2 }) := rfl
  change ∃ written, write path text trial = _
  rw [write, attempted, answered]
  cases (StateT.run (Host.writeText path text : StateM Session Bool) trial.session).1 with
  | true => exact ⟨_, rfl⟩
  | false => exact ⟨_, rfl⟩

def Follows (step : Step (StateM Trial) α) (inSession : Step (StateM Session) α) : Prop :=
  ∀ trial : Trial, trial.refusals = [] → ∃ written, trial.run step =
    ((trial.session.run inSession).1,
      { trial with session := (trial.session.run inSession).2, written })

namespace Follows

theorem pure (value : α) : Follows (Pure.pure value) (Pure.pure value) :=
  fun trial _ => ⟨trial.written, rfl⟩

theorem throw (error : CommandError) :
    Follows (MonadExcept.throw error : Step _ α) (MonadExcept.throw error) :=
  fun trial _ => ⟨trial.written, rfl⟩

theorem lift {action : StateM Trial α} {inSession : StateM Session α}
    (does : Does action inSession) : Follows (ExceptT.lift action) (ExceptT.lift inSession) := by
  intro trial willing
  rcases does trial willing with ⟨written, ran⟩
  refine ⟨written, ?_⟩
  rw [run, Session.run, ExceptT.run_lift, ExceptT.run_lift, StateT.run_map, StateT.run_map, ran]
  rfl

theorem bind {step : Step (StateM Trial) α} {inSession : Step (StateM Session) α}
    {next : α → Step (StateM Trial) β} {nextInSession : α → Step (StateM Session) β}
    (first : Follows step inSession) (second : ∀ value, Follows (next value) (nextInSession value)) :
    Follows (step >>= next) (inSession >>= nextInSession) := by
  intro trial willing
  rcases first trial willing with ⟨written, ran⟩
  rw [run_bind, Session.run_bind, ran]
  generalize trial.session.run inSession = reached
  rcases reached with ⟨outcome, left⟩
  cases outcome with
  | error error => exact ⟨written, rfl⟩
  | ok value =>
      rcases second value { trial with session := left, written } willing with ⟨more, continued⟩
      exact ⟨more, continued⟩

theorem insist {action : StateM Trial Bool} {inSession : StateM Session Bool}
    (does : Does action inSession) (error : CommandError) :
    Follows (Generation.insist action error) (Generation.insist inSession error) := by
  apply (lift does).bind
  intro answer
  cases answer with
  | true => exact .pure ()
  | false => exact .throw error

theorem log (verbosity : Verbosity) (entry : LogEntry) :
    Follows (Generation.log verbosity entry) (Generation.log verbosity entry) := by
  apply lift
  unfold Host.log
  split
  · exact .lift _
  · exact fun trial _ => ⟨trial.written, rfl⟩

theorem logAll (verbosity : Verbosity) (notices : List Notice) :
    Follows (notices.forM fun notice => Generation.log verbosity notice.logEntry)
      (notices.forM fun notice => Generation.log verbosity notice.logEntry) := by
  induction notices with
  | nil => exact .pure ()
  | cons notice rest induction => exact (log verbosity notice.logEntry).bind fun _ => induction

end Follows

/-! ## Runs of the generator -/

variable {config : Config}

theorem schemaFiles_follows (directory : FilePath) :
    Follows (schemaFiles directory) (schemaFiles directory) := by
  apply (Follows.lift (.lift _)).bind
  intro tree
  apply (Follows.lift (.lift _)).bind
  intro entry
  split
  · exact .pure _
  · exact .throw _

theorem compileFile_follows (file : FilePath) (maxDepth : Nat) (verbosity : Verbosity) :
    Follows (compileFile file maxDepth verbosity) (compileFile file maxDepth verbosity) := by
  apply (Follows.lift (.lift _)).bind
  intro found
  cases found with
  | none => exact .pure _
  | some text =>
      cases read : readDefinition text file.text with
      | error error =>
          simp only [read]
          exact .pure _
      | ok definition =>
          simp only [read]
          exact (Follows.logAll verbosity _).bind fun _ => .pure _

theorem writeDocument_follows (document : Document) (verbosity : Verbosity) :
    Follows (writeDocument config document verbosity) (writeDocument config document verbosity) := by
  apply (Follows.insist (.createDirectories _) _).bind
  intro _
  apply (Follows.insist (.writeText _ _) _).bind
  intro _
  exact .log verbosity _

theorem recordPackage_follows (report : Report) (package : String) (file : FilePath)
    (verbosity : Verbosity) :
    Follows (recordPackage report package file verbosity)
      (recordPackage report package file verbosity) := by
  unfold recordPackage
  split
  · exact (Follows.log verbosity _).bind fun _ => .pure _
  · exact .pure _

theorem compileFiles_follows (files : List FilePath) (report : Report) (verbosity : Verbosity) :
    Follows (compileFiles config verbosity files report)
      (compileFiles config verbosity files report) := by
  induction files generalizing report with
  | nil => exact .pure _
  | cons file rest induction =>
      rw [compileFiles, compileFiles]
      apply (Follows.log verbosity _).bind
      intro _
      apply (compileFile_follows file config.maxDepth verbosity).bind
      intro result
      cases result with
      | ok document =>
          apply (writeDocument_follows document verbosity).bind
          intro _
          apply (recordPackage_follows report _ file verbosity).bind
          exact induction
      | error error =>
          apply (Follows.log verbosity _).bind
          intro _
          cases config.onError with
          | abort => exact .pure _
          | skip => exact induction _

theorem storeManifest_follows (report : Report) :
    Follows (storeManifest config report) (storeManifest config report) := by
  unfold storeManifest
  cases report.aborted with
  | true => exact .pure report
  | false => exact (Follows.insist (.writeText _ _) _).bind fun _ => .pure report

theorem generate_follows (config : Config) (verbosity : Verbosity) :
    Follows (generate config verbosity) (generate config verbosity) := by
  rw [generate_eq, generate_eq]
  apply Follows.bind
  · apply (schemaFiles_follows config.schemasDir).bind
    intro files
    apply (Follows.insist (.createDirectories _) _).bind
    intro _
    exact compileFiles_follows files _ verbosity
  · exact storeManifest_follows

/-- The record of a run tells the documents of all packages that the report counts, and the
manifest unless the run stopped. -/
theorem recorded_of_generate {verbosity : Verbosity} {trial left : Trial} {report : Report}
    (ran : trial.run (generate config verbosity) = (.ok report, left)) :
    (∀ package ∈ report.packages, ∃ place,
      trial.place? (Document.path config.outputDir package) = some place ∧
        place ∈ left.written) ∧
    (report.aborted = false → ∃ place,
      trial.place? (Manifest.path config.outputDir) = some place ∧ place ∈ left.written) := by
  rcases storeDocuments_writes config verbosity trial with ⟨⟨places, wrote, _⟩, listed⟩
  rw [generate_eq, run_bind] at ran
  generalize trial.run (storeDocuments config verbosity) = began at wrote listed ran
  rcases began with ⟨outcome, stored⟩
  cases outcome with
  | error error => cases ran
  | ok counted =>
      have documents := (listed counted rfl).documents
      have recorded : ∀ last more, Wrote more stored last → ∀ package ∈ counted.packages,
          ∃ place, trial.place? (Document.path config.outputDir package) = some place ∧
            place ∈ last.written := by
        intro last more wroteMore package member
        rcases documents package member with ⟨place, leads, written, _⟩
        refine ⟨place, (wrote.place?_eq _).symm.trans leads, ?_⟩
        rw [wroteMore.recorded]
        exact List.mem_append_left _ written
      simp only [storeManifest] at ran
      by_cases aborted : counted.aborted
      · rw [if_pos aborted] at ran
        cases ran
        refine ⟨recorded _ [] (.nothing rfl rfl rfl rfl), fun goesOn => ?_⟩
        rw [aborted] at goesOn
        cases goesOn
      · rw [if_neg aborted, run_bind] at ran
        rcases run_writeText_cases (Manifest.path config.outputDir)
          (manifestOf config counted.packages).text stored with
          ⟨place, last, wroteManifest, leads, record, _⟩ | ⟨last, refused, _⟩
        · rw [wroteManifest] at ran
          cases ran
          refine ⟨recorded _ _ record, fun _ => ⟨place, (wrote.place?_eq _).symm.trans leads, ?_⟩⟩
          rw [record.recorded]
          exact List.mem_append_right _ (List.mem_singleton_self _)
        · rw [refused] at ran
          cases ran

end Trial

end CrdCompiler
