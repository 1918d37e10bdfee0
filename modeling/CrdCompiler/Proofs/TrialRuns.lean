import CrdCompiler.Proofs.Trial

/-! # Runs of the generator in a trial

A run stores documents, each at the place that its package tells, and goes on to the manifest only
when all of them are stored; the manifest lists the packages of documents that are there by then.
-/

namespace CrdCompiler

namespace Generation

variable {m : Type → Type} [Monad m] [Host m]

def storeDocuments (config : Config) (verbosity : Verbosity) : Step m Report := do
  let files ← schemaFiles config.schemasDir
  createDirectories config.outputDir
  compileFiles config verbosity files { files := files.length }

def storeManifest (config : Config) (report : Report) : Step m Report := do
  unless report.aborted do
    writeText (Manifest.path config.outputDir) (manifestOf config report.packages).text
  return report

theorem generate_eq [LawfulMonad m] (config : Config) (verbosity : Verbosity) :
    (generate config verbosity : Step m Report) =
      storeDocuments config verbosity >>= storeManifest config := by
  simp only [generate, storeDocuments, bind_assoc]
  rfl

end Generation

namespace Trial

open Generation

variable {config : Config} {outputDir : FilePath} {trial left : Trial}
  {places : List (List String)} {packages : List String} {package : String}

/-- The document of a text, under the depth limit of a run. -/
def IsCompiled (config : Config) (document : Document) : Prop :=
  ∃ text file, compileText text file config.maxDepth = .ok document

/-- A place that a run may write a document to. -/
def IsDocumentPlace (config : Config) (trial : Trial) (place : List String) : Prop :=
  ∃ document, IsCompiled config document ∧
    trial.place? (Document.path config.outputDir document.packageIdentifier) = some place

/-- The document of a package has been written and is there. -/
def HasDocument (outputDir : FilePath) (trial : Trial) (package : String) : Prop :=
  ∃ place, trial.place? (Document.path outputDir package) = some place ∧ place ∈ trial.written ∧
    (trial.contents place).isSome

theorem HasDocument.after (has : HasDocument outputDir trial package)
    (wrote : Wrote places trial left) : HasDocument outputDir left package := by
  rcases has with ⟨place, leads, recorded, stands⟩
  refine ⟨place, (wrote.place?_eq _).trans leads, ?_, wrote.standing stands⟩
  rw [wrote.recorded]
  exact List.mem_append_left _ recorded

/-- Packages are listed once each, and their documents are there. -/
structure Listed (outputDir : FilePath) (trial : Trial) (packages : List String) : Prop where
  once : packages.Nodup
  documents : ∀ package ∈ packages, HasDocument outputDir trial package

namespace Listed

theorem nil : Listed outputDir trial [] :=
  ⟨List.nodup_nil, fun _ member => absurd member List.not_mem_nil⟩

theorem after (listed : Listed outputDir trial packages) (wrote : Wrote places trial left) :
    Listed outputDir left packages :=
  ⟨listed.once, fun package member => (listed.documents package member).after wrote⟩

theorem append (listed : Listed outputDir trial packages)
    (has : HasDocument outputDir trial package) (new : package ∉ packages) :
    Listed outputDir trial (packages ++ [package]) where
  once := by
    refine List.nodup_append.mpr ⟨listed.once, List.nodup_cons.mpr ⟨List.not_mem_nil, .nil⟩, ?_⟩
    intro earlier member last same equal
    rw [equal, List.mem_singleton.mp same] at member
    exact new member
  documents other member := by
    rcases List.mem_append.mp member with earlier | last
    · exact listed.documents other earlier
    · rw [List.mem_singleton.mp last]
      exact has

end Listed

/-! ## Documents -/

section Steps

variable {allowed : List String → Prop}

theorem schemaFiles_writes (directory : FilePath) (trial : Trial) :
    Writes allowed (schemaFiles directory) trial fun _ _ => True := by
  apply (Writes.lift (.nothing rfl rfl rfl rfl)).bind
  intro tree looked _ _ _
  apply (Writes.lift (.nothing rfl rfl rfl rfl)).bind
  intro entry _ _ _ _
  split
  · exact .pure trivial
  · exact .throw _

theorem compileFile_writes (config : Config) (file : FilePath) (verbosity : Verbosity)
    (trial : Trial) :
    Writes allowed (compileFile file config.maxDepth verbosity) trial fun result _ =>
      ∀ document, result = .ok document → IsCompiled config document := by
  apply (Writes.lift (.nothing rfl rfl rfl rfl)).bind
  intro found left _ _ _
  cases found with
  | none =>
      apply Writes.pure
      intro _ impossible
      cases impossible
  | some text =>
      cases read : readDefinition text file.text with
      | error error =>
          simp only [read]
          apply Writes.pure
          intro _ impossible
          cases impossible
      | ok definition =>
          simp only [read]
          apply (Writes.logAll verbosity _ left).bind
          intro _ logged _ _ _
          apply Writes.pure
          intro document assembled
          exact ⟨text, file.text, by rw [compileText, read, ← assembled]; rfl⟩

theorem recordPackage_writes {report : Report} (listed : Listed outputDir trial report.packages)
    (has : HasDocument outputDir trial package) (file : FilePath) (verbosity : Verbosity) :
    Writes allowed (recordPackage report package file verbosity) trial fun report left =>
      Listed outputDir left report.packages := by
  unfold recordPackage
  by_cases again : report.packages.contains package
  · rw [if_pos again]
    apply (Writes.log verbosity _ trial).bind
    intro _ logged _ wrote _
    exact .pure (listed.after wrote)
  · rw [if_neg again]
    apply Writes.pure
    apply listed.append has
    simpa using again

end Steps

theorem writeDocument_writes {document : Document} (compiled : IsCompiled config document)
    (verbosity : Verbosity) :
    Writes (IsDocumentPlace config trial) (writeDocument config document verbosity) trial
      fun _ left => HasDocument config.outputDir left document.packageIdentifier := by
  apply (Writes.createDirectories _ trial).bind
  intro _ room _ made _
  have permitted : ∀ place ∈ room.place? (Document.path config.outputDir document.packageIdentifier),
      IsDocumentPlace config trial place := by
    intro place leads
    exact ⟨document, compiled, (made.place?_eq _).symm.trans leads⟩
  apply (Writes.writeText _ permitted).bind
  intro _ stored _ wrote written
  rcases written with ⟨place, leads, recorded, stands⟩
  apply (Writes.log verbosity _ stored).imp
  intro _ _ _ wroteNothing _
  exact HasDocument.after ⟨place, (wrote.place?_eq _).trans leads, recorded, stands⟩ wroteNothing

theorem isDocumentPlace_after (wrote : Wrote places trial left) :
    IsDocumentPlace config left = IsDocumentPlace config trial := by
  funext place
  simp only [IsDocumentPlace, wrote.place?_eq]

theorem compileFiles_writes {files : List FilePath} {report : Report}
    (listed : Listed config.outputDir trial report.packages) (verbosity : Verbosity) :
    Writes (IsDocumentPlace config trial) (compileFiles config verbosity files report) trial
      fun report left => Listed config.outputDir left report.packages := by
  induction files generalizing trial report with
  | nil => exact .pure listed
  | cons file rest induction =>
      rw [compileFiles]
      apply (Writes.log verbosity _ trial).bind
      intro _ logged _ wroteNone _
      apply (compileFile_writes config file verbosity logged).bind
      intro result compiling _ wroteNothing compiles
      have listedThere := (listed.after wroteNone).after wroteNothing
      rw [← isDocumentPlace_after wroteNone, ← isDocumentPlace_after wroteNothing]
      cases result with
      | ok document =>
          apply (writeDocument_writes (compiles document rfl) verbosity).bind
          intro _ stored _ wrote has
          apply (recordPackage_writes (listedThere.after wrote) has file verbosity).bind
          intro extended recorded _ wroteLast listedLast
          rw [← isDocumentPlace_after wrote, ← isDocumentPlace_after wroteLast]
          exact induction listedLast
      | error error =>
          apply (Writes.log verbosity _ compiling).bind
          intro _ told _ wrote _
          have listedLast := listedThere.after wrote
          rw [← isDocumentPlace_after wrote]
          cases config.onError with
          | abort => exact .pure listedLast
          | skip => exact induction listedLast

theorem storeDocuments_writes (config : Config) (verbosity : Verbosity) (trial : Trial) :
    Writes (IsDocumentPlace config trial) (storeDocuments config verbosity) trial
      fun report left => Listed config.outputDir left report.packages := by
  apply (schemaFiles_writes config.schemasDir trial).bind
  intro files listing _ wrote _
  apply (Writes.createDirectories config.outputDir listing).bind
  intro _ made _ wroteNothing _
  rw [← isDocumentPlace_after wrote, ← isDocumentPlace_after wroteNothing]
  exact compileFiles_writes .nil verbosity

/-! ## Whole runs -/

/-- What a run comes to, seen from its end: the documents were written, and after them nothing or
the manifest of packages whose documents are there. -/
inductive Ending (config : Config) (stored : Trial) : Trial → Prop where
  | unlisted {left : Trial} (wrote : Wrote [] stored left) : Ending config stored left
  | listed {left : Trial} (packages : List String) (place : List String)
      (documents : Listed config.outputDir stored packages)
      (leads : stored.place? (Manifest.path config.outputDir) = some place)
      (wrote : Wrote [place] stored left)
      (manifest : left.contents place = some (some (manifestOf config packages).text)) :
      Ending config stored left

theorem storeManifest_ending {report : Report} {stored : Trial}
    (listed : Listed config.outputDir stored report.packages) :
    Ending config stored (stored.run (storeManifest config report)).2 := by
  unfold storeManifest
  cases report.aborted with
  | true =>
      rw [if_pos rfl, run_pure]
      exact .unlisted (.nothing rfl rfl rfl rfl)
  | false =>
      rw [if_neg Bool.false_ne_true, run_bind]
      rcases run_writeText_cases (Manifest.path config.outputDir)
        (manifestOf config report.packages).text stored with
        ⟨place, left, ran, leads, wrote, manifest⟩ | ⟨left, ran, wrote⟩
      · simp only [ran, run_pure]
        exact .listed report.packages place listed leads wrote manifest
      · rw [ran]
        exact .unlisted wrote

/-- However a run ends, it has written documents of its output directory, and it has left the
manifest alone unless that came last and lists what is there. -/
theorem generate_ending (config : Config) (verbosity : Verbosity) (trial : Trial) :
    ∃ stored places, Wrote places trial stored ∧
      (∀ place ∈ places, IsDocumentPlace config trial place) ∧
      Ending config stored (trial.run (generate config verbosity)).2 := by
  rcases storeDocuments_writes config verbosity trial with ⟨⟨places, wrote, within⟩, listed⟩
  rw [generate_eq, run_bind]
  generalize trial.run (storeDocuments config verbosity) = ran at wrote listed
  rcases ran with ⟨outcome, stored⟩
  refine ⟨stored, places, wrote, within, ?_⟩
  cases outcome with
  | error error => exact .unlisted (.nothing rfl rfl rfl rfl)
  | ok report => exact storeManifest_ending (listed report rfl)

def definitionText (version : String) : String :=
  "spec:
 group: a
 names:
  kind: B
  plural: b
 versions:
 - name: " ++ version ++ "
   schema:
    openAPIV3Schema:
     properties:
      spec:
       type: object
      status:
       type: object"

def definitionTrial (version : String) : Trial where
  session := { disk := { tree := .directory [("in", inputs)] } }
where
  inputs := .directory [("a", .file (some (definitionText version)))]

def smallConfig : Config where
  schemasDir := ⟨"/in"⟩
  outputDir := ⟨"/out"⟩

end Trial

end CrdCompiler
