import CrdCompiler.Proofs.FileTexts
import CrdCompiler.Proofs.SessionSteps
import CrdCompiler.Proofs.TreeRoundTrip

/-! # Effect of a generation

What a run of the generator leaves behind, told without running it: the files are compiled one after
the other on the disk as it is by then, the documents of those that are reached are stored in this
order, and the manifest comes last. A run that nothing refuses ends well, with a report that can be
read off the compilations, and changes no file but those.
-/

namespace CrdCompiler

/-- A file together with what compiling it came to. -/
structure Compilation where
  file : FilePath
  result : Except CompileError Document

namespace Compilation

def fails (compilation : Compilation) : Bool :=
  !compilation.result.isOk

def failure? (compilation : Compilation) : Option (FilePath × CompileError) :=
  match compilation.result with
  | .ok _ => none
  | .error error => some (compilation.file, error)

/-- The compilations that a run gets to: all of them, or those through the first failure. -/
def reached (policy : FailurePolicy) (compilations : List Compilation) : List Compilation :=
  match policy with
  | .abort => compilations.take (compilations.findIdx fails + 1)
  | .skip => compilations

def documents (compilations : List Compilation) : List Document :=
  compilations.filterMap fun compilation => compilation.result.toOption

def failures (compilations : List Compilation) : List (FilePath × CompileError) :=
  compilations.filterMap failure?

@[simp] theorem documents_nil : documents [] = [] := rfl

@[simp] theorem failures_nil : failures [] = [] := rfl

@[simp] theorem documents_cons_ok (file : FilePath) (document : Document)
    (rest : List Compilation) :
    documents (⟨file, .ok document⟩ :: rest) = document :: documents rest := rfl

@[simp] theorem documents_cons_error (file : FilePath) (error : CompileError)
    (rest : List Compilation) :
    documents (⟨file, .error error⟩ :: rest) = documents rest := rfl

@[simp] theorem failures_cons_ok (file : FilePath) (document : Document)
    (rest : List Compilation) : failures (⟨file, .ok document⟩ :: rest) = failures rest := rfl

@[simp] theorem failures_cons_error (file : FilePath) (error : CompileError)
    (rest : List Compilation) :
    failures (⟨file, .error error⟩ :: rest) = (file, error) :: failures rest := rfl

theorem documents_reached_subset (policy : FailurePolicy) (compilations : List Compilation) :
    documents (reached policy compilations) ⊆ documents compilations := by
  cases policy with
  | abort => exact (List.Sublist.filterMap _ (List.take_sublist _ _)).subset
  | skip => exact List.Subset.refl _

theorem reached_cons_ok (policy : FailurePolicy) (file : FilePath) (document : Document)
    (rest : List Compilation) :
    reached policy (⟨file, .ok document⟩ :: rest) =
      ⟨file, .ok document⟩ :: reached policy rest := by
  cases policy with
  | abort => simp [reached, List.findIdx_cons, fails, Except.isOk, Except.toBool]
  | skip => rfl

theorem reached_abort_cons_error (file : FilePath) (error : CompileError)
    (rest : List Compilation) :
    reached .abort (⟨file, .error error⟩ :: rest) = [⟨file, .error error⟩] := by
  simp [reached, List.findIdx_cons, fails, Except.isOk, Except.toBool]

end Compilation

namespace Generation

open Compilation

variable {config : Config}

/-! ## Runs along files -/

/-- What compiling each file comes to when its turn comes, in a run that goes on to the last. -/
def compilations (config : Config) : Disk → List FilePath → List Compilation
  | _, [] => []
  | disk, file :: rest =>
    match compileAt disk config.maxDepth file with
    | .error error => ⟨file, .error error⟩ :: compilations config disk rest
    | .ok document =>
      ⟨file, .ok document⟩ :: compilations config (stored config disk document) rest

theorem assembled_of_compileAt {disk : Disk} {maxDepth : Nat} {file : FilePath}
    {document : Document} (compiled : compileAt disk maxDepth file = .ok document) :
    ∃ definition, assemble definition maxDepth = .ok document := by
  unfold compileAt compileText at compiled
  split at compiled
  · cases compiled
  · rcases Outcome.bind_eq_ok.mp compiled with ⟨definition, _, assembled⟩
    exact ⟨definition, assembled⟩

theorem assembled_of_mem_compilations {disk : Disk} {files : List FilePath} {document : Document}
    (member : document ∈ documents (compilations config disk files)) :
    ∃ definition, assemble definition config.maxDepth = .ok document := by
  induction files generalizing disk with
  | nil => cases member
  | cons file rest induction =>
      unfold compilations at member
      cases compiled : compileAt disk config.maxDepth file with
      | error error =>
          rw [compiled] at member
          exact induction member
      | ok first =>
          rw [compiled] at member
          rcases List.mem_cons.mp member with rfl | later
          · exact assembled_of_compileAt compiled
          · exact induction later

def AllStorable (config : Config) : Disk → List Document → Prop
  | _, [] => True
  | disk, document :: rest =>
    Storable config disk document ∧ AllStorable config (stored config disk document) rest

instance decidableAllStorable (config : Config) :
    ∀ disk documents, Decidable (AllStorable config disk documents)
  | _, [] => isTrue trivial
  | disk, document :: rest =>
    @instDecidableAnd _ _ _ (decidableAllStorable config (stored config disk document) rest)

def course (config : Config) (disk : Disk) (files : List FilePath) : List Compilation :=
  reached config.onError (compilations config disk files)

def stops (config : Config) (disk : Disk) (files : List FilePath) : Bool :=
  config.onError = .abort && (compilations config disk files).any Compilation.fails

def packagesOf (documents : List Document) : List String :=
  documents.map fun document => document.packageIdentifier

@[simp] theorem packagesOf_nil : packagesOf [] = [] := rfl

@[simp] theorem packagesOf_cons (document : Document) (rest : List Document) :
    packagesOf (document :: rest) = document.packageIdentifier :: packagesOf rest := rfl

@[simp] theorem course_nil (disk : Disk) : course config disk [] = [] := by
  unfold course reached compilations
  cases config.onError <;> rfl

@[simp] theorem stops_nil (disk : Disk) : stops config disk [] = false := by
  simp [stops, compilations]

section Steps

variable {disk : Disk} {file : FilePath} {rest : List FilePath} {document : Document}
  {error : CompileError}

theorem course_cons_ok (compiled : compileAt disk config.maxDepth file = .ok document) :
    course config disk (file :: rest) =
      ⟨file, .ok document⟩ :: course config (stored config disk document) rest := by
  simp only [course, compilations, compiled]
  exact reached_cons_ok ..

theorem stops_cons_ok (compiled : compileAt disk config.maxDepth file = .ok document) :
    stops config disk (file :: rest) = stops config (stored config disk document) rest := by
  simp only [stops, compilations, compiled, List.any_cons]
  rfl

theorem course_cons_error_of_abort (aborts : config.onError = .abort)
    (failed : compileAt disk config.maxDepth file = .error error) :
    course config disk (file :: rest) = [⟨file, .error error⟩] := by
  simp only [course, compilations, failed, aborts]
  exact reached_abort_cons_error ..

theorem stops_cons_error_of_abort (aborts : config.onError = .abort)
    (failed : compileAt disk config.maxDepth file = .error error) :
    stops config disk (file :: rest) = true := by
  simp only [stops, compilations, failed, aborts, List.any_cons]
  rfl

theorem course_cons_error_of_skip (skips : config.onError = .skip)
    (failed : compileAt disk config.maxDepth file = .error error) :
    course config disk (file :: rest) = ⟨file, .error error⟩ :: course config disk rest := by
  simp only [course, compilations, failed, skips]
  rfl

end Steps

theorem compileFiles_ends {files : List FilePath} {disk : Disk} {report : Report}
    {known : List String} (recorded : report.packages = known.eraseDups)
    (storable : AllStorable config disk (documents (course config disk files)))
    (verbosity : Verbosity) :
    Ends (compileFiles config verbosity files report) disk
      { report with
        packages := (known ++ packagesOf (documents (course config disk files))).eraseDups
        failures := report.failures ++ failures (course config disk files)
        aborted := report.aborted || stops config disk files }
      ((documents (course config disk files)).foldl (stored config) disk) := by
  -- `known` are the packages recorded so far with their repetitions, which the report leaves out.
  induction files generalizing disk report known with
  | nil =>
      rw [compileFiles, course_nil, stops_nil, Bool.or_false, documents_nil, packagesOf_nil,
        List.append_nil, ← recorded, failures_nil, List.append_nil]
      exact .pure report disk
  | cons file rest induction =>
      rw [compileFiles]
      apply (Ends.log verbosity _ disk).bind
      apply (compileFile_ends file config.maxDepth verbosity disk).bind
      cases compiled : compileAt disk config.maxDepth file with
      | ok document =>
          rw [course_cons_ok compiled, documents_cons_ok] at storable
          rw [course_cons_ok compiled, stops_cons_ok compiled, documents_cons_ok, failures_cons_ok,
            packagesOf_cons, List.append_cons]
          apply (writeDocument_ends storable.1).bind
          apply (recordPackage_ends recorded _ file verbosity _).bind
          apply induction
          · rfl
          · exact storable.2
      | error error =>
          apply (Ends.log verbosity _ disk).bind
          cases policy : config.onError with
          | abort =>
              rw [course_cons_error_of_abort policy compiled,
                stops_cons_error_of_abort policy compiled, Bool.or_true, documents_cons_error,
                documents_nil, packagesOf_nil, List.append_nil, ← recorded]
              exact .pure _ disk
          | skip =>
              rw [course_cons_error_of_skip policy compiled, documents_cons_error] at storable
              have goesOn : stops config disk (file :: rest) = stops config disk rest := by
                simp [stops, policy]
              rw [course_cons_error_of_skip policy compiled, goesOn, documents_cons_error,
                failures_cons_error, List.append_cons report.failures (file, error) (failures _)]
              apply induction
              · exact recorded
              · exact storable

theorem compileFiles_fails {files : List FilePath} {disk : Disk} {report : Report}
    {known : List String} (recorded : report.packages = known.eraseDups)
    (refused : ¬ AllStorable config disk (documents (course config disk files)))
    (verbosity : Verbosity) : Fails (compileFiles config verbosity files report) disk := by
  induction files generalizing disk report known with
  | nil =>
      rw [course_nil] at refused
      exact absurd trivial refused
  | cons file rest induction =>
      rw [compileFiles]
      apply (Ends.log verbosity _ disk).bind_fails
      apply (compileFile_ends file config.maxDepth verbosity disk).bind_fails
      cases compiled : compileAt disk config.maxDepth file with
      | ok document =>
          rw [course_cons_ok compiled, documents_cons_ok] at refused
          by_cases first : Storable config disk document
          · apply (writeDocument_ends first).bind_fails
            apply (recordPackage_ends recorded _ file verbosity _).bind_fails
            apply induction rfl
            intro others
            exact refused ⟨first, others⟩
          · exact (writeDocument_fails first verbosity).bind _
      | error error =>
          apply (Ends.log verbosity _ disk).bind_fails
          cases policy : config.onError with
          | abort =>
              rw [course_cons_error_of_abort policy compiled] at refused
              exact absurd trivial refused
          | skip =>
              rw [course_cons_error_of_skip policy compiled] at refused
              exact induction recorded refused

/-! ## Contents left behind -/

/-- The last document that goes to a place. -/
def lastAt? (config : Config) (disk : Disk) (place : List String) (documents : List Document) :
    Option Document :=
  (documents.filter fun document =>
    disk.place? (documentPath config document) = some place).getLast?

theorem contents_foldl_stored {documents : List Document} {disk : Disk}
    (storable : AllStorable config disk documents) (place : List String) :
    (documents.foldl (stored config) disk).tree.contents place =
      match lastAt? config disk place documents with
      | some document => some (some (document.fileText config.moduleName))
      | none => disk.tree.contents place := by
  induction documents generalizing disk with
  | nil => rfl
  | cons document rest induction =>
      rcases contents_stored storable.1 with ⟨target, leads, contents⟩
      rw [List.foldl_cons, induction storable.2, contents, Function.update_apply]
      simp only [lastAt?, place?_stored]
      by_cases here : place = target
      · subst target
        rw [List.filter_cons_of_pos (by simpa using leads), List.getLast?_cons, if_pos rfl]
        cases (rest.filter _).getLast? <;> rfl
      · rw [List.filter_cons_of_neg (by simpa [leads] using Ne.symm here), if_neg here]

@[simp] theorem place?_foldl_stored (documents : List Document) (disk : Disk) (path : FilePath) :
    (documents.foldl (stored config) disk).place? path = disk.place? path := by
  induction documents generalizing disk with
  | nil => rfl
  | cons document rest induction => rw [List.foldl_cons, induction, place?_stored]

/-! ## Whole runs -/

/-- The disk on which the first file is compiled. -/
def outset (config : Config) (disk : Disk) : Disk :=
  (disk.createDirectories config.outputDir).1

def storedDocuments (config : Config) (disk : Disk) (files : List FilePath) : List Document :=
  documents (course config (outset config disk) files)

def withDocuments (config : Config) (disk : Disk) (files : List FilePath) : Disk :=
  (storedDocuments config disk files).foldl (stored config) (outset config disk)

def reportOf (config : Config) (disk : Disk) (files : List FilePath) : Report where
  files := files.length
  packages := (packagesOf (storedDocuments config disk files)).eraseDups
  failures := failures (course config (outset config disk) files)
  aborted := stops config (outset config disk) files

def withManifest (config : Config) (disk : Disk) (files : List FilePath) : Disk × Bool :=
  (withDocuments config disk files).writeText (Manifest.path config.outputDir)
    (manifestOf config (reportOf config disk files).packages).text

/-- Nothing that a run writes is refused. -/
structure Unrefused (config : Config) (disk : Disk) (files : List FilePath) : Prop where
  outputDirectory : (disk.createDirectories config.outputDir).2
  documents : AllStorable config (outset config disk) (storedDocuments config disk files)
  manifest : stops config (outset config disk) files = false → (withManifest config disk files).2

instance (config : Config) (disk : Disk) (files : List FilePath) :
    Decidable (Unrefused config disk files) :=
  decidable_of_iff
    ((disk.createDirectories config.outputDir).2 ∧
      AllStorable config (outset config disk) (storedDocuments config disk files) ∧
      (stops config (outset config disk) files = false → (withManifest config disk files).2))
    ⟨fun holds => ⟨holds.1, holds.2.1, holds.2.2⟩,
      fun unrefused => ⟨unrefused.outputDirectory, unrefused.documents, unrefused.manifest⟩⟩

def leftBy (config : Config) (disk : Disk) (files : List FilePath) : Disk :=
  if stops config (outset config disk) files then withDocuments config disk files
  else (withManifest config disk files).1

theorem generate_ends {session : Session} {files : List FilePath}
    (listed : (session.run (schemaFiles config.schemasDir)).1 = .ok files)
    (unrefused : Unrefused config session.disk files) (verbosity : Verbosity) :
    Ends (generate config verbosity) session.disk (reportOf config session.disk files)
      (leftBy config session.disk files) := by
  unfold generate
  apply (schemaFiles_ends listed).bind
  apply (Ends.createDirectories unrefused.outputDirectory).bind
  have fresh : ({ files := files.length } : Report).packages = List.eraseDups [] := rfl
  apply (compileFiles_ends fresh unrefused.documents verbosity).bind
  rw [Bool.false_or, List.nil_append, List.nil_append, reportOf, leftBy]
  cases stopped : stops config (outset config session.disk) files with
  | true => exact .pure _ _
  | false => exact (Ends.writeText (unrefused.manifest stopped)).bind (.pure _ _)

theorem generate_fails {session : Session} {files : List FilePath}
    (listed : (session.run (schemaFiles config.schemasDir)).1 = .ok files)
    (refused : ¬ Unrefused config session.disk files) (verbosity : Verbosity) :
    Fails (generate config verbosity) session.disk := by
  unfold generate
  apply (schemaFiles_ends listed).bind_fails
  by_cases made : (session.disk.createDirectories config.outputDir).2
  · apply (Ends.createDirectories made).bind_fails
    have fresh : ({ files := files.length } : Report).packages = List.eraseDups [] := rfl
    by_cases storable : AllStorable config (outset config session.disk)
        (storedDocuments config session.disk files)
    · apply (compileFiles_ends fresh storable verbosity).bind_fails
      rw [Bool.false_or]
      cases stopped : stops config (outset config session.disk) files with
      | true => exact absurd ⟨made, storable, by simp [stopped]⟩ refused
      | false =>
          apply (Fails.writeText _).bind
          intro written
          exact refused ⟨made, storable, fun _ => written⟩
    · exact (compileFiles_fails fresh storable verbosity).bind _
  · exact (Fails.createDirectories made).bind _

/-- A run ends well exactly when there are files to list and nothing is refused. -/
theorem generate_succeeds_iff (session : Session) (verbosity : Verbosity) :
    (∃ report left, session.run (generate config verbosity) = (.ok report, left)) ↔
      ∃ files, (session.run (schemaFiles config.schemasDir)).1 = .ok files ∧
        Unrefused config session.disk files := by
  constructor
  · intro succeeds
    rcases succeeds with ⟨report, left, ran⟩
    have endsWell : ¬ Fails (generate config verbosity) session.disk := by
      intro fails
      rcases fails session.printed with ⟨error, _, failed⟩
      cases ran.symm.trans failed
    cases listed : (session.run (schemaFiles config.schemasDir)).1 with
    | error error => exact absurd ((schemaFiles_fails listed).bind _) endsWell
    | ok files =>
        refine ⟨files, rfl, ?_⟩
        by_contra refused
        exact endsWell (generate_fails listed refused verbosity)
  · intro holds
    rcases holds with ⟨files, listed, unrefused⟩
    rcases generate_ends listed unrefused verbosity session.printed with ⟨more, ran⟩
    exact ⟨_, _, ran⟩

/-! ## What a run leaves behind -/

theorem contents_withDocuments {disk : Disk} {files : List FilePath}
    (unrefused : Unrefused config disk files) (place : List String) :
    (withDocuments config disk files).tree.contents place =
      match lastAt? config disk place (storedDocuments config disk files) with
      | some document => some (some (document.fileText config.moduleName))
      | none => disk.tree.contents place := by
  rw [withDocuments, contents_foldl_stored unrefused.documents]
  simp [lastAt?, outset]

/-- What a report says about a run over files and what the run leaves on the disk. -/
structure Effect (config : Config) (disk : Disk) (files : List FilePath) (report : Report)
    (left : Disk) : Prop where
  fileCount : report.files = files.length
  failures : report.failures = failures (course config (outset config disk) files)
  aborted : report.aborted ↔ config.onError = .abort ∧
    ∃ compilation ∈ compilations config (outset config disk) files, compilation.fails
  exitCode : report.exitCode = 0 ↔ report.failures = []
  packages : report.packages = (packagesOf (storedDocuments config disk files)).eraseDups
  -- The manifest is written last, so it is looked for first.
  contents : ∀ place, left.tree.contents place =
    if report.aborted = false ∧
        disk.place? (Manifest.path config.outputDir) = some place then
      some (some (manifestOf config report.packages).text)
    else
      match lastAt? config disk place (storedDocuments config disk files) with
      | some document => some (some (document.fileText config.moduleName))
      | none => disk.tree.contents place
  -- What the written texts say, to a reader of JSON.
  manifestText : Json.parse? (manifestOf config report.packages).text = some (.mapping [
    (.name "moduleName", .text config.moduleName),
    (.name "providerName", .text config.name),
    (.name "address", .text config.address),
    (.name "packages", .sequence (report.packages.map .text))])
  documentTexts : ∀ document ∈ storedDocuments config disk files,
    Json.parseExactly? (document.fileText config.moduleName) =
      some (.ofJson (document.fileForm config.moduleName))
  documentTrees : ∀ document ∈ storedDocuments config disk files,
    ∀ property ∈ document.specProperties ++ document.statusProperties,
      Property.ofContent? (.ofJson property.toJson) = some property

theorem trees_read_of_stored {disk : Disk} {files : List FilePath} {document : Document}
    (isStored : document ∈ storedDocuments config disk files) :
    ∀ property ∈ document.specProperties ++ document.statusProperties,
      Property.ofContent? (.ofJson property.toJson) = some property := by
  rcases assembled_of_mem_compilations (documents_reached_subset _ _ isStored) with ⟨_, assembled⟩
  have finite := Assembly.haveFiniteLiterals_of_assembled assembled
  intro property member
  exact Property.ofContent?_toJson (finite.of_mem member) (.refl _)

theorem contents_leftBy {disk : Disk} {files : List FilePath}
    (unrefused : Unrefused config disk files) (place : List String) :
    (leftBy config disk files).tree.contents place =
      if (reportOf config disk files).aborted = false ∧
          disk.place? (Manifest.path config.outputDir) = some place then
        some (some (manifestOf config (reportOf config disk files).packages).text)
      else
        match lastAt? config disk place (storedDocuments config disk files) with
        | some document => some (some (document.fileText config.moduleName))
        | none => disk.tree.contents place := by
  rw [← contents_withDocuments unrefused]
  cases stopped : stops config (outset config disk) files with
  | true => simp [leftBy, reportOf, stopped]
  | false =>
      rcases Disk.contents_writeText (unrefused.manifest stopped) with ⟨target, leads, written⟩
      have told : disk.place? (Manifest.path config.outputDir) = some target := by
        simpa [withDocuments, outset] using leads
      rw [leftBy, stopped, if_neg Bool.false_ne_true, withManifest, written, told,
        Function.update_apply]
      simp [reportOf, stopped, eq_comm]

/-- A run that has files to list and is refused nothing ends well; its report and the contents of
every file are told by the files that it gets to. -/
theorem generate_effect {config : Config} {session : Session} {files : List FilePath}
    (verbosity : Verbosity)
    (listed : (session.run (schemaFiles config.schemasDir)).1 = .ok files)
    (unrefused : Unrefused config session.disk files) :
    ∃ report left, session.run (generate config verbosity) = (.ok report, left) ∧
      Effect config session.disk files report left.disk := by
  rcases generate_ends listed unrefused verbosity session.printed with ⟨more, ran⟩
  refine ⟨_, _, ran, ?_⟩
  exact {
    fileCount := rfl
    failures := rfl
    aborted := by simp [reportOf, stops]
    exitCode := by simp [Report.exitCode]
    packages := rfl
    contents := contents_leftBy unrefused
    manifestText := Manifest.parse?_text _
    documentTexts := fun document _ => document.parseExactly?_fileText config.moduleName
    documentTrees := fun _ isStored => trees_read_of_stored isStored }

/-- A definition without a property in its spec or its status. -/
def bucketText : String := "spec:
 group: a
 names:
  kind: B
  plural: b
 versions:
 - name: v
   schema:
    openAPIV3Schema:
     properties:
      spec: &o
       type: object
      status: *o"

def mixedInputs : FileTree :=
  .directory [("a", .file none), ("b", .file (some bucketText))]

def mixedFiles : List FilePath := [⟨"/in/a"⟩, ⟨"/in/b"⟩]

/-- The output directory is a link to another. -/
def mixedSession : Session where
  disk := { tree := .directory [
    ("in", mixedInputs), ("out", .link ⟨"store"⟩), ("store", .directory [])] }

def skippingConfig : Config where
  schemasDir := ⟨"/in"⟩
  outputDir := ⟨"/out"⟩
  onError := .skip

theorem mixedSession_listed :
    (mixedSession.run (schemaFiles skippingConfig.schemasDir)).1 = .ok mixedFiles := by
  have looked : mixedSession.disk.entry? skippingConfig.schemasDir = some mixedInputs := rfl
  have stands : mixedSession.disk.tree? skippingConfig.schemasDir = some mixedInputs := rfl
  have first : FilePath.join ⟨"/in"⟩ ⟨"a"⟩ = ⟨"/in/a"⟩ := rfl
  have second : FilePath.join ⟨"/in"⟩ ⟨"b"⟩ = ⟨"/in/b"⟩ := rfl
  rw [run_schemaFiles, listing, looked, stands]
  simp [filesFrom, mixedInputs, mixedFiles, skippingConfig, FileTree.files, FileTree.memberFiles,
    List.mergeSort, List.MergeSort.Internal.splitInTwo, first, second]

theorem mixedSession_effect :
    ∃ report left, mixedSession.run (generate skippingConfig 0) = (.ok report, left) ∧
      Effect skippingConfig mixedSession.disk mixedFiles report left.disk ∧
      report.packages = ["a_b_v"] ∧ report.aborted = false ∧
      left.disk.tree.contents ["store", "packages.json"] =
        some (some (manifestOf skippingConfig ["a_b_v"]).text) := by
  have possible : Unrefused skippingConfig mixedSession.disk mixedFiles ∧
      (packagesOf (storedDocuments skippingConfig mixedSession.disk mixedFiles)).eraseDups =
        ["a_b_v"] := by
    decide +kernel
  have meant : mixedSession.disk.place? (Manifest.path skippingConfig.outputDir) =
      some ["store", "packages.json"] := by
    decide +kernel
  rcases generate_effect 0 mixedSession_listed possible.1 with ⟨report, left, ran, effect⟩
  have packages := effect.packages.trans possible.2
  have goesOn : report.aborted = false := by
    rw [Bool.eq_false_iff, Ne, effect.aborted]
    rintro ⟨policy, _⟩
    cases policy
  refine ⟨report, left, ran, effect, packages, goesOn, ?_⟩
  rw [effect.contents, if_pos ⟨goesOn, meant⟩, packages]

end Generation

end CrdCompiler
