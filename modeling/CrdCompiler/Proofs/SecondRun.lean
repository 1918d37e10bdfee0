import CrdCompiler.Proofs.GenerationEffect
import CrdCompiler.Proofs.Listing
import CrdCompiler.Proofs.PathComponents
import CrdCompiler.Proofs.WillingTrial

/-! # Second runs

A run that ends well and puts nothing below the schemas directory can be done again: it lists and
reads the same files, is refused nothing, and leaves every file as the first run left it.
-/

namespace CrdCompiler

namespace Generation

open Compilation Disk

variable {config : Config} {disk mid left later state : Disk} {files : List FilePath}
  {document : Document} {written : List Document} {allowed : List String → Prop}

/-! ## Documents stored again -/

/-- A document goes to an allowed place. -/
def Permits (allowed : List String → Prop) (config : Config) (disk : Disk) (document : Document) :
    Prop :=
  ∀ place ∈ disk.place? (documentPath config document), allowed place

theorem Permits.still (permitted : Permits allowed config disk document)
    (after : Later allowed disk later) : Permits allowed config later document := by
  rwa [Permits, after.place?_eq]

theorem later_roomFor (disk : Disk) (document : Document) :
    Later allowed disk (roomFor config disk document) :=
  .createDirectories disk _

theorem later_stored (permitted : Permits allowed config disk document) :
    Later allowed disk (stored config disk document) :=
  (later_roomFor disk document).trans (.writeText (permitted.still (later_roomFor disk document)) _)

theorem later_foldl_stored (permitted : ∀ document ∈ written, Permits allowed config disk document) :
    Later allowed disk (written.foldl (stored config) disk) := by
  induction written generalizing disk with
  | nil => exact .refl allowed disk
  | cons document rest induction =>
      rcases List.forall_mem_cons.mp permitted with ⟨first, others⟩
      have step := later_stored first
      exact step.trans (induction fun other member => (others other member).still step)

theorem Storable.again (storable : Storable config disk document)
    (permitted : Permits allowed config disk document)
    (after : Later allowed (stored config disk document) later) :
    Storable config later document ∧
      ∀ place, later.tree.standing? place = none →
        (stored config later document).tree.standing? place = none := by
  have room : Permits allowed config (roomFor config disk document) document :=
    permitted.still (later_roomFor disk document)
  have wrote : Later allowed (roomFor config disk document) (stored config disk document) :=
    .writeText room _
  have made := createDirectories_again storable.directory (wrote.trans after)
  have here : roomFor config later document = later := congrArg Prod.fst made
  rcases writeText_again storable.file room after (document.fileText config.moduleName) with
    ⟨again, nothing⟩
  refine ⟨⟨congrArg Prod.snd made, here.symm ▸ again⟩, ?_⟩
  rwa [stored, here]

/-! ## Files compiled again -/

/-- As long as a disk changes within bounds, the files read the same. -/
def Steady (allowed : List String → Prop) (disk left : Disk) (files : List FilePath) : Prop :=
  ∀ state, Within allowed disk left state →
    ∀ file ∈ files, state.readText? file = disk.readText? file

theorem Steady.compileAt_eq (steady : Steady allowed disk left files)
    (within : Within allowed disk left state) {file : FilePath} (member : file ∈ files)
    (maxDepth : Nat) : compileAt state maxDepth file = compileAt disk maxDepth file := by
  rw [compileAt, compileAt, steady state within file member]

theorem within_of_later (before : Later allowed disk state) (after : Later allowed state left) :
    Within allowed disk left state := by
  refine ⟨before, ?_⟩
  intro place absent
  rw [← Option.not_isSome_iff_eq_none] at absent ⊢
  exact mt (after.changes.keeps.standing place) absent

/-- A run over files that leads to what is left takes the same course when it is done again on what
is left, and all its documents can be stored again. -/
theorem Steady.course_eq (steady : Steady allowed disk left files) (first : Later allowed disk mid)
    (permitted : ∀ document ∈ documents (course config mid files),
      Permits allowed config mid document)
    (storable : AllStorable config mid (documents (course config mid files)))
    (last : Later allowed ((documents (course config mid files)).foldl (stored config) mid) left)
    (second : Later allowed left later)
    (nothing : ∀ place, left.tree.standing? place = none → later.tree.standing? place = none) :
    course config later files = course config mid files ∧
      stops config later files = stops config mid files ∧
      AllStorable config later (documents (course config mid files)) := by
  induction files generalizing mid later with
  | nil => simp [AllStorable]
  | cons file rest induction =>
      have others : Steady allowed disk left rest :=
        fun state within other member => steady state within other (List.mem_cons_of_mem _ member)
      have onward := (later_foldl_stored permitted).trans last
      have compiled :=
        steady.compileAt_eq (within_of_later first onward) List.mem_cons_self config.maxDepth
      have again := steady.compileAt_eq ⟨(first.trans onward).trans second, nothing⟩
        List.mem_cons_self config.maxDepth
      cases result : compileAt disk config.maxDepth file with
      | ok document =>
          rw [result] at compiled again
          rw [course_cons_ok compiled, documents_cons_ok] at permitted storable last ⊢
          rw [course_cons_ok again, stops_cons_ok compiled, stops_cons_ok again]
          rcases List.forall_mem_cons.mp permitted with ⟨here, below⟩
          have step := later_stored here
          have belowThere : ∀ document ∈ documents (course config (stored config mid _) rest),
              Permits allowed config (stored config mid _) document :=
            fun other member => (below other member).still step
          have since := ((later_foldl_stored belowThere).trans last).trans second
          rcases storable.1.again here since with ⟨storableAgain, still⟩
          have stepAgain := later_stored ((here.still step).still since)
          rcases induction others (first.trans step) belowThere storable.2 last
            (second.trans stepAgain) (fun place absent => still place (nothing place absent)) with
            ⟨courses, stopping, rested⟩
          exact ⟨congrArg _ courses, stopping, storableAgain, rested⟩
      | error error =>
          rw [result] at compiled again
          cases policy : config.onError with
          | abort =>
              rw [course_cons_error_of_abort policy compiled,
                course_cons_error_of_abort policy again,
                stops_cons_error_of_abort policy compiled, stops_cons_error_of_abort policy again]
              exact ⟨rfl, rfl, trivial⟩
          | skip =>
              rw [course_cons_error_of_skip policy compiled, documents_cons_error]
                at permitted storable last ⊢
              rw [course_cons_error_of_skip policy again]
              rcases induction others first permitted storable last second nothing with
                ⟨courses, stopping, rested⟩
              refine ⟨congrArg _ courses, ?_, rested⟩
              simp [stops, policy]

/-! ## The run again -/

/-- The documents of a run, and its manifest if it writes one, go to allowed places. -/
structure KeepsTo (allowed : List String → Prop) (config : Config) (disk : Disk)
    (files : List FilePath) : Prop where
  documents : ∀ document ∈ storedDocuments config disk files, Permits allowed config disk document
  manifest : stops config (outset config disk) files = false →
    ∀ place ∈ disk.place? (Manifest.path config.outputDir), allowed place

theorem later_outset (disk : Disk) : Later allowed disk (outset config disk) :=
  .createDirectories disk _

namespace KeepsTo

variable (keepsTo : KeepsTo allowed config disk files)

include keepsTo

theorem documents_outset : ∀ document ∈ storedDocuments config disk files,
    Permits allowed config (outset config disk) document :=
  fun document member => (keepsTo.documents document member).still (later_outset disk)

theorem later_withDocuments :
    Later allowed (outset config disk) (withDocuments config disk files) :=
  later_foldl_stored keepsTo.documents_outset

theorem manifest_withDocuments (goesOn : stops config (outset config disk) files = false) :
    ∀ place ∈ (withDocuments config disk files).place? (Manifest.path config.outputDir),
      allowed place := by
  rw [((later_outset disk).trans keepsTo.later_withDocuments).place?_eq]
  exact keepsTo.manifest goesOn

theorem later_leftBy :
    Later allowed (withDocuments config disk files) (leftBy config disk files) := by
  unfold leftBy
  cases stopped : stops config (outset config disk) files with
  | true => exact .refl _ _
  | false => exact .writeText (keepsTo.manifest_withDocuments stopped) _

theorem later_outset_leftBy : Later allowed (outset config disk) (leftBy config disk files) :=
  keepsTo.later_withDocuments.trans keepsTo.later_leftBy

theorem after : Later allowed disk (leftBy config disk files) :=
  (later_outset disk).trans keepsTo.later_outset_leftBy

theorem outset_leftBy (unrefused : Unrefused config disk files) :
    outset config (leftBy config disk files) = leftBy config disk files := by
  rw [outset, createDirectories_again unrefused.outputDirectory keepsTo.later_outset_leftBy]

variable (steady : Steady allowed disk (leftBy config disk files) files)
  (unrefused : Unrefused config disk files)

include steady unrefused

theorem course_leftBy :
    course config (leftBy config disk files) files = course config (outset config disk) files ∧
      stops config (leftBy config disk files) files = stops config (outset config disk) files ∧
      AllStorable config (leftBy config disk files) (storedDocuments config disk files) :=
  steady.course_eq (later_outset disk) keepsTo.documents_outset unrefused.documents
    keepsTo.later_leftBy (.refl _ _) fun _ => id

theorem storedDocuments_leftBy :
    storedDocuments config (leftBy config disk files) files = storedDocuments config disk files := by
  rw [storedDocuments, keepsTo.outset_leftBy unrefused, (keepsTo.course_leftBy steady unrefused).1,
    storedDocuments]

theorem reportOf_leftBy :
    reportOf config (leftBy config disk files) files = reportOf config disk files := by
  have same := keepsTo.course_leftBy steady unrefused
  rw [reportOf, keepsTo.storedDocuments_leftBy steady unrefused,
    keepsTo.outset_leftBy unrefused, same.1, same.2.1, reportOf]

theorem unrefused_leftBy : Unrefused config (leftBy config disk files) files where
  outputDirectory := by
    rw [createDirectories_again unrefused.outputDirectory keepsTo.later_outset_leftBy]
  documents := by
    rw [keepsTo.outset_leftBy unrefused, keepsTo.storedDocuments_leftBy steady unrefused]
    exact (keepsTo.course_leftBy steady unrefused).2.2
  manifest := by
    intro goesOn
    rw [keepsTo.outset_leftBy unrefused, (keepsTo.course_leftBy steady unrefused).2.1] at goesOn
    have left : leftBy config disk files = (withManifest config disk files).1 := by
      rw [leftBy, goesOn, if_neg Bool.false_ne_true]
    have again : Later allowed (leftBy config disk files)
        (withDocuments config (leftBy config disk files) files) := by
      rw [withDocuments, keepsTo.storedDocuments_leftBy steady unrefused,
        keepsTo.outset_leftBy unrefused]
      exact later_foldl_stored fun document member =>
        (keepsTo.documents document member).still keepsTo.after
    exact (writeText_again (unrefused.manifest goesOn) (keepsTo.manifest_withDocuments goesOn)
      (left ▸ again) _).1

theorem contents_leftBy_leftBy :
    (leftBy config (leftBy config disk files) files).tree.contents =
      (leftBy config disk files).tree.contents := by
  have again := keepsTo.unrefused_leftBy steady unrefused
  funext place
  have left := contents_leftBy unrefused place
  have same : lastAt? config (leftBy config disk files) place (storedDocuments config disk files) =
      lastAt? config disk place (storedDocuments config disk files) := by
    simp only [lastAt?, keepsTo.after.place?_eq]
  rw [contents_leftBy again, keepsTo.reportOf_leftBy steady unrefused,
    keepsTo.storedDocuments_leftBy steady unrefused, keepsTo.after.place?_eq, same]
  split
  · rename_i here
    rw [left, if_pos here]
  · rename_i elsewhere
    rw [if_neg elsewhere] at left
    cases last : lastAt? config disk place (storedDocuments config disk files) with
    | some document => simp only [left, last]
    | none => rfl

end KeepsTo

/-! ## Any run again -/

theorem keepsTo_recorded {session : Session} {left : Trial} {verbosity : Verbosity}
    (ran : Trial.run { session } (generate config verbosity) =
      (.ok (reportOf config session.disk files), left)) :
    KeepsTo (· ∈ left.written) config session.disk files := by
  rcases Trial.recorded_of_generate ran with ⟨documents, manifest⟩
  constructor
  · intro document member place leads
    have counted : document.packageIdentifier ∈ (reportOf config session.disk files).packages :=
      List.mem_eraseDups.mpr (List.mem_map_of_mem member)
    rcases documents _ counted with ⟨other, leads', recorded⟩
    rwa [Option.some_inj.mp (leads.symm.trans leads')]
  · intro goesOn place leads
    rcases manifest goesOn with ⟨other, leads', recorded⟩
    rwa [Option.some_inj.mp (leads.symm.trans leads')]

/-- A run that ends well, puts no file below the schemas directory and touches nothing that a link
there leads along changes nothing when it is done again, and reports the same. -/
theorem generate_again {config : Config} {session : Session} {verbosity : Verbosity}
    {report : Report} {left : Trial} {schemas : List String}
    (proper : session.disk.tree.IsProper)
    (ran : Trial.run { session } (generate config verbosity) = (.ok report, left))
    (meant : session.disk.place? config.schemasDir = some schemas)
    (apart : ∀ place ∈ left.written, ¬ schemas <+: place)
    (untouched : LinksUntouched (· ∈ left.written) session.disk left.session.disk schemas)
    (verbosity' : Verbosity) (printed : List String) :
    ∃ again, Trial.run { session := { disk := left.session.disk, printed } }
        (generate config verbosity') = (.ok report, again) ∧
      again.contents = left.contents := by
  rcases Trial.generate_follows config verbosity { session } rfl with ⟨_, followed⟩
  have inSession : session.run (generate config verbosity) = (.ok report, left.session) := by
    rw [ran] at followed
    exact Prod.ext (congrArg Prod.fst followed).symm
      (congrArg (fun reached => reached.2.session) followed).symm
  rcases (generate_succeeds_iff session verbosity).mp ⟨report, left.session, inSession⟩ with
    ⟨files, reads, unrefused⟩
  rcases generate_ends reads unrefused verbosity session.printed with ⟨more, ended⟩
  have reported : report = reportOf config session.disk files :=
    Except.ok.inj (congrArg Prod.fst (inSession.symm.trans ended))
  have stands : left.session.disk = leftBy config session.disk files :=
    congrArg (fun reached => reached.2.disk) (inSession.symm.trans ended)
  subst reported
  have listed : listing session.disk config.schemasDir = .ok files := by
    rwa [run_schemaFiles] at reads
  have keepsTo := keepsTo_recorded ran
  have steady : Steady (· ∈ left.written) session.disk (leftBy config session.disk files) files :=
    fun state within file member =>
      within.readText?_eq proper listed meant apart (stands ▸ untouched) member
  -- The second run, told on the disk that the first has left.
  have readsAgain : (Session.run { disk := left.session.disk, printed }
      (schemaFiles config.schemasDir)).1 = .ok files := by
    rw [run_schemaFiles, stands]
    exact listing_later listed meant keepsTo.after apart
  have possible : Unrefused config left.session.disk files :=
    stands ▸ keepsTo.unrefused_leftBy steady unrefused
  rcases generate_ends readsAgain possible verbosity' printed with ⟨most, endedAgain⟩
  rcases Trial.generate_follows config verbosity'
    { session := { disk := left.session.disk, printed } } rfl with ⟨written, followedAgain⟩
  rw [endedAgain, stands, keepsTo.reportOf_leftBy steady unrefused] at followedAgain
  refine ⟨_, stands ▸ followedAgain, ?_⟩
  funext place
  rw [Trial.contents, Trial.contents, stands]
  exact congrFun (keepsTo.contents_leftBy_leftBy steady unrefused) place

/-- A link in the schemas directory that leads to a file elsewhere. -/
def linkedSession : Session where
  disk := { tree := .directory [
    ("in", .directory [("z", .link ⟨"../store/a"⟩)]),
    ("store", .directory [("a", .file (some (Trial.definitionText "v")))])] }

theorem linkedSession_links {rest : List String} {target : FilePath}
    (linked : linkedSession.disk.tree.links (["in"] ++ rest) = some target) :
    rest = ["z"] ∧ target = ⟨"../store/a"⟩ := by
  rw [FileTree.links_eq_some_iff] at linked
  cases rest with
  | nil => cases linked
  | cons name below =>
      have within : (FileTree.directory [("z", .link ⟨"../store/a"⟩)]).standing? (name :: below) =
          some (.link target) := linked
      rw [FileTree.standing?_directory_cons] at within
      rcases Option.bind_eq_some_iff.mp within with ⟨inner, found, stands⟩
      cases List.mem_singleton.mp (mem_of_lookup found)
      cases below with
      | nil =>
          cases stands
          exact ⟨rfl, rfl⟩
      | cons second further => cases stands

theorem linkedSession_passes {passed : List String}
    (passes : Route.Passes linkedSession.disk.tree.links passed ["in"] ["..", "store", "a"]) :
    passed ∈ [["in"], [], ["store"], ["store", "a"]] := by
  rcases passes.of_unlinked rfl with rfl | passes
  · decide
  rcases passes.of_unlinked rfl with rfl | passes
  · decide
  rcases passes.of_unlinked rfl with rfl | passes
  · decide
  cases passes
  decide

theorem linkedSession_again :
    ∃ report left again,
      Trial.run { session := linkedSession } (generate Trial.smallConfig 0) = (.ok report, left) ∧
      report.packages = ["a_b_v"] ∧
      left.written = [["out", "a_b_v", "document.json"], ["out", "packages.json"]] ∧
      Trial.run { session := { disk := left.session.disk } } (generate Trial.smallConfig 0) =
        (.ok report, again) ∧
      again.contents = left.contents := by
  have proper : linkedSession.disk.tree.IsProper := by
    refine .directory (by decide) (by decide) ?_
    intro member held
    rcases List.mem_pair.mp held with rfl | rfl
    · exact .directory (by decide) (by decide) (List.forall_mem_singleton.mpr (.link _))
    · exact .directory (by decide) (by decide) (List.forall_mem_singleton.mpr (.file _))
  have outcome :
      let ran := Trial.run { session := linkedSession } (generate Trial.smallConfig 0)
      ran.1.toOption.map Report.packages = some ["a_b_v"] ∧
      ran.2.written = [["out", "a_b_v", "document.json"], ["out", "packages.json"]] ∧
      ∀ place ∈ [["in"], [], ["store"], ["store", "a"]],
        ran.2.session.disk.tree.standing? place = linkedSession.disk.tree.standing? place := by
    decide +kernel
  rcases outcome with ⟨packages, written, same⟩
  cases ran : Trial.run { session := linkedSession } (generate Trial.smallConfig 0) with
  | mk result left =>
      rw [ran] at packages written same
      cases result with
      | error error => cases packages
      | ok report =>
          have apart : ∀ place ∈ left.written, ¬ ["in"] <+: place := by
            rw [written]
            decide
          have untouched :
              LinksUntouched (· ∈ left.written) linkedSession.disk left.session.disk ["in"] := by
            intro rest target passed linked passes
            rcases linkedSession_links linked with ⟨rfl, rfl⟩
            have member := linkedSession_passes passes
            have elsewhere : ∀ place ∈ [["in"], [], ["store"], ["store", "a"]],
                place ∉ left.written := by
              rw [written]
              decide
            exact ⟨elsewhere passed member, same passed member⟩
          rcases generate_again proper ran (by decide +kernel) apart untouched 0 [] with
            ⟨again, ranAgain, contents⟩
          exact ⟨report, left, again, rfl, Option.some.inj packages, written, ranAgain, contents⟩

def reportedFailures (ran : Except CommandError Report × Trial) : Option (List String) :=
  ran.1.toOption.map fun report => report.failures.map fun failure => failure.2.message

/-- A link in the schemas directory that leads to the manifest. -/
def watchingSession : Session where
  disk := { tree := .directory [("in", .directory [("z", .link ⟨"../out/packages.json"⟩)])] }

/-- The path of the schemas directory takes a turn, so that it does not begin the paths that are
written to, though the directories are the same. -/
def turningConfig : Config where
  schemasDir := ⟨"/x/../in"⟩
  outputDir := ⟨"/in"⟩
  onError := .skip

def turningSession : Session where
  disk := { tree := .directory [("x", .directory []), ("in", .directory [])] }

theorem repeated_run_differs :
    let second (first : Except CommandError Report × Trial) (config : Config) :=
      Trial.run { session := { disk := first.2.session.disk } } (generate config 0)
    let watching := Trial.run { session := watchingSession } (generate skippingConfig 0)
    let turning := Trial.run { session := turningSession } (generate turningConfig 0)
    (watchingSession.disk.place? skippingConfig.schemasDir = some ["in"] ∧
      watching.2.written = [["out", "packages.json"]] ∧
      reportedFailures watching =
        some ["failed to read schema '/in/z': cannot read file"] ∧
      reportedFailures (second watching skippingConfig) =
        some ["failed to read schema '/in/z': invalid CustomResourceDefinition"]) ∧
    (¬ turningConfig.schemasDir.steps <+: (Manifest.path turningConfig.outputDir).steps ∧
      turning.2.written = [["in", "packages.json"]] ∧
      reportedFailures turning = some [] ∧
      reportedFailures (second turning turningConfig) = some
        ["failed to read schema '/x/../in/packages.json': invalid CustomResourceDefinition"]) := by
  decide +kernel

end Generation

end CrdCompiler
