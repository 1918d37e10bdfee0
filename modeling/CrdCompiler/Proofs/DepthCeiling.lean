import CrdCompiler.Program
import CrdCompiler.Proofs.FaultPlaces
import CrdCompiler.Proofs.SessionSteps

/-! # Where the depth limit is exceeded

An error for depth stands as many names below the root of its subtree as the limit allows. So a
limit of at least one level is never exceeded at a root, whatever is compiled, and no report of a
run under such a limit has an error of this kind.
-/

namespace CrdCompiler

namespace CompileError

/-- An error for depth has as many names behind the root as the limit. -/
def IsAtLimit (limit : Nat) (error : CompileError) : Prop :=
  ∀ path bound, error = .shape path (.tooDeep bound) → bound = limit ∧ path.length = limit + 1

def IsShallowCeiling (error : CompileError) : Prop :=
  ∃ path limit, error = .shape path (.tooDeep limit) ∧ path.length = 1

variable {limit : Nat}

theorem IsAtLimit.not_isShallowCeiling {error : CompileError} (placed : error.IsAtLimit limit)
    (positive : 1 ≤ limit) : ¬ error.IsShallowCeiling := by
  intro shallow
  rcases shallow with ⟨path, bound, same, single⟩
  have reached := (placed path bound same).2
  omega

theorem isAtLimit_of_plain {path : SchemaPath} {fault : ShapeFault}
    (plain : ∀ bound, fault ≠ .tooDeep bound) : IsAtLimit limit (.shape path fault) := by
  intro _ bound same
  cases same
  exact absurd rfl (plain bound)

theorem isAtLimit_unreadable (file : String) (fault : ReadFault) :
    IsAtLimit limit (.unreadable file fault) :=
  nofun

end CompileError

open CompileError (IsAtLimit isAtLimit_of_plain isAtLimit_unreadable)
open Outcome

variable {limit : Nat}

theorem Resolver.resolveProperties_failsOnly (resolver : Resolver) (node : SchemaNode)
    (root : String) :
    FailsOnly (IsAtLimit resolver.maxDepth)
      (resolver.resolveProperties node (.root root)) := by
  cases resolver.resolveProperties_anchored node with
  | result properties equal =>
      rw [equal]
      exact failsOnly_ok properties
  | fault names cause faulty equal =>
      rw [equal]
      apply failsOnly_error
      intro path bound same
      cases cause with
      | value fault => cases same
      | shape fault =>
          cases same
          rcases faulty.deepest bound rfl with ⟨limited, reached⟩
          refine ⟨limited, ?_⟩
          change (root :: names).length = _
          rw [List.length_cons]
          omega

namespace Assembly

theorem require_failsOnly {α : Type} {fault : ShapeFault} (found : Option α) (path : SchemaPath)
    (plain : ∀ bound, fault ≠ .tooDeep bound) :
    FailsOnly (IsAtLimit limit) (require found path fault) := by
  cases found with
  | none => exact failsOnly_error (isAtLimit_of_plain plain)
  | some value => exact failsOnly_ok value

theorem valueSchema?_failsOnly (node : SchemaNode) (path : SchemaPath) :
    FailsOnly (IsAtLimit limit) (node.valueSchema? path) := by
  unfold SchemaNode.valueSchema?
  split
  · exact failsOnly_ok _
  · exact failsOnly_ok _
  · exact failsOnly_error (isAtLimit_of_plain (by simp))
  · exact failsOnly_ok _

theorem checkRoot_failsOnly (node : SchemaNode) (path : SchemaPath) :
    FailsOnly (IsAtLimit limit) (checkRoot node path) := by
  unfold checkRoot
  split
  · exact failsOnly_error (isAtLimit_of_plain (by simp))
  · split
    · apply (valueSchema?_failsOnly node path).bind
      intro values _
      split
      · apply failsOnly_error
        apply isAtLimit_of_plain
        intro bound
        split <;> simp
      · exact failsOnly_ok _
    · exact failsOnly_error (isAtLimit_of_plain (by simp))

theorem subtrees_failsOnly (version : ResourceVersion) :
    FailsOnly (IsAtLimit limit) (subtrees version) := by
  unfold subtrees
  apply (require_failsOnly _ _ (by simp)).bind
  intro schema _
  apply (require_failsOnly _ _ (by simp)).bind
  intro spec _
  apply (require_failsOnly _ _ (by simp)).bind
  intro status _
  apply (checkRoot_failsOnly spec specPath).bind
  intro _ _
  apply (checkRoot_failsOnly status statusPath).bind
  intro _ _
  exact failsOnly_ok _

theorem assemble_failsOnly (definition : CustomResourceDefinition) (maxDepth : Nat) :
    FailsOnly (IsAtLimit maxDepth) (assemble definition maxDepth) := by
  unfold assemble
  apply (require_failsOnly _ _ (by simp)).bind
  intro version _
  apply (subtrees_failsOnly version).bind
  rintro ⟨spec, status⟩ _
  apply (Resolver.resolveProperties_failsOnly ⟨false, maxDepth⟩ spec "spec").bind
  intro specProperties _
  apply (Resolver.resolveProperties_failsOnly ⟨true, maxDepth⟩ status "status").bind
  intro statusProperties _
  exact failsOnly_ok _

end Assembly

theorem compileText_failsOnly (text file : String) (maxDepth : Nat) :
    FailsOnly (IsAtLimit maxDepth) (compileText text file maxDepth) := by
  unfold compileText
  apply FailsOnly.bind
  · unfold readDefinition
    split
    · exact failsOnly_ok _
    · exact failsOnly_error (isAtLimit_unreadable _ _)
  · intro definition _
    exact Assembly.assemble_failsOnly definition maxDepth

theorem Generation.compileAt_failsOnly (disk : Disk) (maxDepth : Nat) (file : FilePath) :
    FailsOnly (IsAtLimit maxDepth) (compileAt disk maxDepth file) := by
  unfold compileAt
  split
  · exact failsOnly_error (isAtLimit_unreadable _ _)
  · exact compileText_failsOnly _ _ maxDepth

/-! ## What runs report -/

/-- No failure on record is an exceeded limit at a root. -/
def Report.SparesRoots (report : Report) : Prop :=
  ∀ failure ∈ report.failures, ¬ failure.2.IsShallowCeiling

def CommandError.SparesRoots (error : CommandError) : Prop :=
  ∀ fault, error = .compile fault → ¬ fault.IsShallowCeiling

theorem CommandError.sparesRoots_of_ne {error : CommandError}
    (different : ∀ fault, error ≠ .compile fault) : error.SparesRoots :=
  fun fault same => absurd same (different fault)

namespace Generation

variable {α β : Type}

/-- In every session the step gives a value as expected or ends with an error that spares roots. -/
def Yields (Expected : α → Prop) (step : Step (StateM Session) α) : Prop :=
  ∀ session : Session,
    match (session.run step).1 with
    | .ok value => Expected value
    | .error error => error.SparesRoots

namespace Yields

theorem pure {Expected : α → Prop} {value : α} (expected : Expected value) :
    Yields Expected (pure value) :=
  fun _ => expected

theorem throw {Expected : α → Prop} {error : CommandError} (spared : error.SparesRoots) :
    Yields Expected (throw error) :=
  fun _ => spared

theorem bind {Before : α → Prop} {Expected : β → Prop} {step : Step (StateM Session) α}
    {next : α → Step (StateM Session) β} (first : Yields Before step)
    (continues : ∀ value, Before value → Yields Expected (next value)) :
    Yields Expected (step >>= next) := by
  intro session
  have held := first session
  rw [Session.run_bind]
  generalize session.run step = ran at held
  rcases ran with ⟨outcome, left⟩
  cases outcome with
  | ok value => exact continues value held left
  | error error => exact held

theorem of_ends {Expected : α → Prop} {step : Step (StateM Session) α} {value : Disk → α}
    {left : Disk → Disk} (ends : ∀ disk, Ends step disk (value disk) (left disk))
    (expected : ∀ disk, Expected (value disk)) : Yields Expected step := by
  intro session
  rcases ends session.disk session.printed with ⟨more, ran⟩
  rw [ran]
  exact expected session.disk

theorem log (verbosity : Verbosity) (entry : LogEntry) :
    Yields (fun _ => True) (Generation.log verbosity entry) :=
  of_ends (Ends.log verbosity entry) fun _ => trivial

theorem print (text : String) : Yields (fun _ => True) (Generation.print text) :=
  fun _ => trivial

theorem insist (action : StateM Session Bool) {error : CommandError}
    (spared : error.SparesRoots) : Yields (fun _ => True) (Generation.insist action error) := by
  intro session
  rw [Session.run_insist]
  rcases action.run session with ⟨answer, left⟩
  cases answer with
  | true => trivial
  | false => exact spared

theorem createDirectories (path : FilePath) :
    Yields (fun _ => True) (Generation.createDirectories path) :=
  insist _ (CommandError.sparesRoots_of_ne (by simp))

theorem writeText (path : FilePath) (text : String) :
    Yields (fun _ => True) (Generation.writeText path text) :=
  insist _ (CommandError.sparesRoots_of_ne (by simp))

theorem schemaFiles (directory : FilePath) :
    Yields (fun _ => True) (Generation.schemaFiles directory) := by
  intro session
  rw [run_schemaFiles, listing]
  have unwalked : CommandError.SparesRoots (.walking directory) :=
    CommandError.sparesRoots_of_ne (by simp)
  cases session.disk.tree? directory with
  | none => exact unwalked
  | some tree =>
      cases session.disk.entry? directory with
      | none => exact unwalked
      | some entry => trivial

theorem compileFile (file : FilePath) {maxDepth : Nat} (positive : 1 ≤ maxDepth)
    (verbosity : Verbosity) :
    Yields (FailsOnly (¬ ·.IsShallowCeiling)) (Generation.compileFile file maxDepth verbosity) := by
  apply of_ends (compileFile_ends file maxDepth verbosity)
  intro disk error failed
  exact (compileAt_failsOnly disk maxDepth file error failed).not_isShallowCeiling positive

theorem writeDocument (config : Config) (document : Document) (verbosity : Verbosity) :
    Yields (fun _ => True) (Generation.writeDocument config document verbosity) := by
  apply (createDirectories _).bind
  intro _ _
  apply (writeText _ _).bind
  intro _ _
  exact log verbosity _

theorem recordPackage {report : Report} (spared : report.SparesRoots) (package : String)
    (file : FilePath) (verbosity : Verbosity) :
    Yields Report.SparesRoots (Generation.recordPackage report package file verbosity) := by
  unfold Generation.recordPackage
  split
  · apply (log verbosity _).bind
    intro _ _
    exact pure spared
  · exact pure spared

variable {config : Config}

theorem compileFiles (positive : 1 ≤ config.maxDepth) (verbosity : Verbosity)
    (files : List FilePath) {report : Report} (spared : report.SparesRoots) :
    Yields Report.SparesRoots (Generation.compileFiles config verbosity files report) := by
  induction files generalizing report with
  | nil => exact pure spared
  | cons file rest induction =>
      rw [Generation.compileFiles]
      apply (log verbosity _).bind
      intro _ _
      apply (compileFile file positive verbosity).bind
      intro result compiled
      cases result with
      | ok document =>
          apply (writeDocument config document verbosity).bind
          intro _ _
          exact (recordPackage spared _ file verbosity).bind fun _ => induction
      | error error =>
          have recorded : Report.SparesRoots
              { report with failures := report.failures ++ [(file, error)] } := by
            rw [Report.SparesRoots, List.forall_mem_append, List.forall_mem_singleton]
            exact ⟨spared, compiled error rfl⟩
          apply (log verbosity _).bind
          intro _ _
          cases config.onError with
          | abort => exact pure recorded
          | skip => exact induction recorded

theorem generate (positive : 1 ≤ config.maxDepth) (verbosity : Verbosity) :
    Yields Report.SparesRoots (Generation.generate config verbosity) := by
  apply (schemaFiles config.schemasDir).bind
  intro files _
  apply (createDirectories config.outputDir).bind
  intro _ _
  have fresh : Report.SparesRoots { files := files.length } := List.forall_mem_nil _
  apply (compileFiles positive verbosity files fresh).bind
  intro report spared
  split
  · exact pure spared
  · apply (writeText _ _).bind
    intro _ _
    exact pure spared

theorem printAll (lines : List String) :
    Yields (fun _ => True) (lines.forM (m := Step (StateM Session)) Generation.print) := by
  induction lines with
  | nil => exact pure trivial
  | cons line rest induction => exact (print line).bind fun _ _ => induction

theorem inspection (file : FilePath) (maxDepth : Nat) (compact : Bool) (verbosity : Verbosity) :
    Yields (fun _ => True) (Inspection.run file maxDepth compact verbosity) := by
  unfold Inspection.run
  extract_lets compiled
  by_cases zero : maxDepth = 0
  · rw [if_pos zero]
    have refused : CommandError.zeroDepth.SparesRoots := CommandError.sparesRoots_of_ne (by simp)
    have ended : Yields (fun _ : PUnit => False) (MonadExcept.throw CommandError.zeroDepth) :=
      throw refused
    exact ended.bind fun _ impossible => impossible.elim
  · rw [if_neg zero]
    apply (compileFile file (Nat.pos_of_ne_zero zero) verbosity).bind
    intro result compiled
    cases result with
    | ok document =>
        apply (print _).bind
        intro _ _
        exact pure trivial
    | error error =>
        apply throw
        intro fault same
        cases same
        exact compiled error rfl

end Yields

end Generation

end CrdCompiler
