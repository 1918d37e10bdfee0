import CrdCompiler.Proofs.FileTexts
import CrdCompiler.Proofs.TrialRuns

/-! # Manifests over many runs

Runs share an output directory; some go well, some stop at a file that does not compile, some are
refused a change. Whatever the runs and the edits between them, a manifest in the directory lists
packages whose documents are there: a manifest is the last text of its run, and no run takes a file
away.
-/

namespace CrdCompiler.Trial

open Generation

variable {home : List String} {trial before after : Trial} {places : List (List String)}
  {outputDir : FilePath} {package : String}

/-- The document of a package of an output directory has been written and is there. -/
def HasDocumentIn (home : List String) (trial : Trial) (package : String) : Prop :=
  ∃ place, Document.placeIn? trial.links home package = some place ∧ place ∈ trial.written ∧
    (trial.contents place).isSome

theorem HasDocumentIn.later (has : HasDocumentIn home before package)
    (wrote : Wrote places before after) : HasDocumentIn home after package := by
  rcases has with ⟨place, leads, recorded, stands⟩
  refine ⟨place, by rwa [wrote.links], ?_, wrote.standing stands⟩
  rw [wrote.recorded]
  exact List.mem_append_left _ recorded

def manifestAt (home : List String) (trial : Trial) : Option (Option String) :=
  (Manifest.placeIn? trial.links home).bind trial.contents

/-- Between two runs everything may change but the manifest of the output directory and the
documents that runs have written into it. -/
structure Edited (home : List String) (before after : Trial) : Prop where
  recorded : after.written = before.written
  manifest : manifestAt home after = manifestAt home before
  documents : ∀ package place, Document.placeIn? before.links home package = some place →
    place ∈ before.written →
      Document.placeIn? after.links home package = some place ∧
        after.contents place = before.contents place

theorem Edited.refusals (trial : Trial) (refusals : List Bool) :
    Edited home trial { trial with refusals } :=
  ⟨rfl, rfl, fun _ _ leads _ => ⟨leads, rfl⟩⟩

namespace ManifestHolds

end ManifestHolds

end CrdCompiler.Trial
