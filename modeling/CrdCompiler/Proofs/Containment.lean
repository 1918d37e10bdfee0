import CrdCompiler.Proofs.Assembling
import CrdCompiler.Proofs.TrialRuns
import CrdCompiler.Proofs.Uncased

/-! # Where a run writes

An output directory is laid out with the manifest in it and each document in a directory of its own,
one step down. A run keeps to this layout except for definitions with a slash in their group, kind
or version: a slash stays in the identifier of the package, which is then no name of a directory but
a path, and leads wherever it says.
-/

namespace CrdCompiler

open FilePath

namespace Document

/-- The group, the kind or the version has a slash in it. -/
def IsSlashed (document : Document) : Prop :=
  '/' ∈ document.group.toList ∨ '/' ∈ document.kind.toList ∨ '/' ∈ document.version.toList

theorem slash_mem_packageIdentifierFor_iff (group kind version : String) :
    '/' ∈ (packageIdentifierFor group kind version).toList ↔
      '/' ∈ group.toList ∨ '/' ∈ kind.toList ∨ '/' ∈ version.toList := by
  have uncased : Text.IsUncased '/' := by decide +kernel
  have underscore : '/' ∉ "_".toList := by decide
  have undotted :
      '/' ∈ group.toList.map (fun character => if character = '.' then '_' else character) ↔
        '/' ∈ group.toList := by
    rw [List.mem_map]
    constructor
    · intro holds
      rcases holds with ⟨character, member, image⟩
      split at image
      · exact absurd image (by decide)
      · rwa [image] at member
    · intro member
      exact ⟨'/', member, rfl⟩
  simp only [packageIdentifierFor, String.toList_append, String.toList_ofList, List.mem_append,
    undotted, underscore, uncased.mem_lowercase_iff, or_false, or_assoc]

theorem isOrdinary_packageIdentifierFor_iff (group kind version : String) :
    IsOrdinary (packageIdentifierFor group kind version) ↔
      ¬ ('/' ∈ group.toList ∨ '/' ∈ kind.toList ∨ '/' ∈ version.toList) := by
  rw [← slash_mem_packageIdentifierFor_iff]
  constructor
  · exact IsOrdinary.slashFree
  · intro slashFree
    have underscored : '_' ∈ (packageIdentifierFor group kind version).toList := by
      simp [packageIdentifierFor]
    have different : ∀ name : String, '_' ∉ name.toList →
        packageIdentifierFor group kind version ≠ name := by
      intro name without equal
      exact without (equal ▸ underscored)
    exact {
      slashFree
      moves := by
        simp [staysPut, different "" (by decide), different "." (by decide)]
      downward := different ".." (by decide) }

end Document

namespace Trial

open Generation

variable {config : Config} {links : List String → Option FilePath} {home place : List String}
  {document : Document}

theorem IsCompiled.packageIdentifier_eq (compiled : IsCompiled config document) :
    document.packageIdentifier =
      Document.packageIdentifierFor document.group document.kind document.version := by
  rcases compiled with ⟨text, file, compiled⟩
  rcases Outcome.bind_eq_ok.mp compiled with ⟨definition, _, assembled⟩
  rcases Assembly.assemble_eq_ok.mp assembled with ⟨version, _, _, _, _, _, _, _, _, rfl⟩
  rfl

/-- The places that the layout of an output directory provides. -/
inductive InLayout (home : List String) : List String → Prop where
  | manifest : InLayout home (home ++ ["packages.json"])
  | document {name : String} (ordinary : IsOrdinary name) :
      InLayout home (home ++ [name, "document.json"])

/-- Where the paths of the layout lead if a link stands in the output directory under one of their
names. -/
inductive Diverted (links : List String → Option FilePath) (home : List String) :
    List String → Prop where
  | manifest {place : List String} (linked : (links (home ++ ["packages.json"])).isSome)
      (leads : Manifest.placeIn? links home = some place) : Diverted links home place
  | document {name : String} {place : List String} (ordinary : IsOrdinary name)
      (linked : (links (home ++ [name])).isSome ∨ (links (home ++ [name, "document.json"])).isSome)
      (leads : Document.placeIn? links home name = some place) : Diverted links home place

theorem inLayout_or_diverted_manifest (leads : Manifest.placeIn? links home = some place) :
    InLayout home place ∨ Diverted links home place := by
  rcases Manifest.eq_append_of_placeIn? leads with rfl | linked
  · exact .inl .manifest
  · exact .inr (.manifest linked leads)

theorem inLayout_or_diverted_document (compiled : IsCompiled config document)
    (slashFree : ¬ document.IsSlashed)
    (leads : Document.placeIn? links home document.packageIdentifier = some place) :
    InLayout home place ∨ Diverted links home place := by
  have ordinary : IsOrdinary document.packageIdentifier := by
    rw [compiled.packageIdentifier_eq]
    exact (Document.isOrdinary_packageIdentifierFor_iff ..).mpr slashFree
  rcases Document.eq_append_of_placeIn? ordinary leads with rfl | linked
  · exact .inl (.document ordinary)
  · exact .inr (.document ordinary linked leads)

/-- However a run ends, each text it has written is in the layout of the output directory, or where
a link under a name of the layout leads, or is the document of a definition that brings a slash. -/
theorem generate_writes_in_layout (config : Config) (verbosity : Verbosity) (trial : Trial) :
    ∃ places, Wrote places trial (trial.run (generate config verbosity)).2 ∧
      ∀ place ∈ places,
        (∃ home, trial.place? config.outputDir = some home ∧
          (InLayout home place ∨ Diverted trial.links home place)) ∨
        ∃ document, IsCompiled config document ∧ document.IsSlashed ∧
          trial.place? (Document.path config.outputDir document.packageIdentifier) =
            some place := by
  rcases generate_ending config verbosity trial with ⟨stored, places, wrote, within, ending⟩
  have documents : ∀ place ∈ places,
      (∃ home, trial.place? config.outputDir = some home ∧
        (InLayout home place ∨ Diverted trial.links home place)) ∨
      ∃ document, IsCompiled config document ∧ document.IsSlashed ∧
        trial.place? (Document.path config.outputDir document.packageIdentifier) = some place := by
    intro place member
    rcases within place member with ⟨document, compiled, leads⟩
    by_cases slashed : document.IsSlashed
    · exact .inr ⟨document, compiled, slashed, leads⟩
    · have relative : ¬ isAbsolute ⟨document.packageIdentifier⟩ := by
        rw [compiled.packageIdentifier_eq]
        exact ((Document.isOrdinary_packageIdentifierFor_iff ..).mpr slashed).relative
      rcases Document.exists_placeIn? relative leads with ⟨home, here, leads⟩
      exact .inl ⟨home, here, inLayout_or_diverted_document compiled slashed leads⟩
  cases ending with
  | unlisted wroteNothing =>
      refine ⟨places ++ [], wrote.trans wroteNothing, ?_⟩
      rw [List.append_nil]
      exact documents
  | listed packages last listed leads wroteManifest manifest =>
      refine ⟨places ++ [last], wrote.trans wroteManifest, ?_⟩
      intro place member
      rcases List.mem_append.mp member with earlier | final
      · exact documents place earlier
      · rw [wrote.place?_eq, ← List.mem_singleton.mp final] at leads
        rcases Manifest.exists_placeIn? leads with ⟨home, here, leads⟩
        exact .inl ⟨home, here, inLayout_or_diverted_manifest leads⟩

/-- A version that leads out of the output directory takes the document with it. -/
theorem stray_document_outside :
    (definitionTrial "v/../../e").place? smallConfig.outputDir = some ["out"] ∧
      ∃ place ∈ ((definitionTrial "v/../../e").run (generate smallConfig 0)).2.written,
        ¬ ["out"] <+: place := by
  decide +kernel

end Trial

end CrdCompiler
