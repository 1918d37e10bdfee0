import CrdCompiler.Manifest
import CrdCompiler.Proofs.JoinedPaths
import CrdCompiler.Proofs.Routes

/-! # Places

The place that a path means is told by the links alone, as if everything else that it passes were
there; so a path means the same place before and after its directories are made. What is joined to a
path means what it means as seen from the place of the path.
-/

namespace CrdCompiler

open Route

/-- The place that a path means as seen from a working directory, by where links stand and lead. -/
def FilePath.place? (path : FilePath) (links : List String → Option FilePath)
    (home : List String) : Option (List String) :=
  (follow? (turn? (unhindered links) .read) linkLimit (path.origin home) path.pieces).map Prod.fst

/-- The place of the manifest in an output directory at a place. -/
def Manifest.placeIn? (links : List String → Option FilePath) (home : List String) :
    Option (List String) :=
  FilePath.place? ⟨"packages.json"⟩ links home

/-- The place of the document of a package, whose identifier may be any path. -/
def Document.placeIn? (links : List String → Option FilePath) (home : List String)
    (packageIdentifier : String) : Option (List String) :=
  (FilePath.place? ⟨packageIdentifier⟩ links home).bind (FilePath.place? ⟨"document.json"⟩ links)

namespace Route

variable {stands : List String → Option Standing} {place : List String}

/-- A route along a joined path is a route along the first and then along the second. -/
theorem follow?_join (stands : List String → Option Standing) (left : Nat) (base : FilePath)
    {path : FilePath} (relative : ¬ path.isAbsolute) (home : List String) :
    follow? (turn? stands .read) left ((base.join path).origin home) (base.join path).pieces =
      (follow? (turn? stands .read) left (base.origin home) base.pieces).bind fun reached =>
        follow? (turn? stands .read) reached.2 reached.1 path.pieces := by
  rcases FilePath.pieces_join base relative with ⟨absolute, front, parts, before⟩
  rw [FilePath.origin, FilePath.origin, absolute, parts, follow?_read_append]
  rcases before with before | before
  · rw [before]
  -- The empty piece behind the last slash of the base asks for a directory, as the path does.
  rw [before, follow?_read_append, Option.bind_assoc]
  congr 1
  funext reached
  cases pieces : path.pieces with
  | nil => exact absurd pieces path.pieces_ne_nil
  | cons piece rest =>
      rw [follow?_cons _ _ _ "" []]
      by_cases directory : stands reached.1 = some .directory
      · rw [turn?_inPlace directory (.inl rfl)]
        simp [FilePath.pass, FilePath.staysPut]
      · simp [follow?_cons, turn?, directory]

end Route

namespace FilePath

variable {links : List String → Option FilePath} {base path : FilePath}
  {home place reached : List String} {name : String}

theorem origin_of_relative (relative : ¬ path.isAbsolute) (home : List String) :
    path.origin home = home := by
  rw [origin, if_neg relative]

theorem exists_place?_of_join (relative : ¬ path.isAbsolute)
    (leads : (base.join path).place? links home = some place) :
    ∃ reached, base.place? links home = some reached ∧ path.place? links reached = some place := by
  rw [place?, follow?_join _ _ _ relative] at leads
  rcases Option.map_eq_some_iff.mp leads with ⟨⟨_, spared⟩, followed, rfl⟩
  rcases Option.bind_eq_some_iff.mp followed with ⟨⟨reached, left⟩, first, second⟩
  rcases follow?_of_le second (follow?_left_le first) with ⟨more, again⟩
  refine ⟨reached, ?_, ?_⟩
  · rw [place?, first, Option.map_some]
  · rw [place?, origin_of_relative relative, again, Option.map_some]

theorem place?_of_join (known : base.place? links home = some reached)
    (leads : (base.join path).place? links home = some place) :
    path.place? links reached = some place := by
  by_cases absolute : path.isAbsolute
  · rw [join, if_pos absolute] at leads
    rw [place?, origin, if_pos absolute] at leads ⊢
    exact leads
  · rcases exists_place?_of_join absolute leads with ⟨other, same, follows⟩
    cases known.symm.trans same
    exact follows

theorem IsOrdinary.goesOn (ordinary : IsOrdinary name) : ¬ (staysPut name ∨ name = "..") :=
  not_or.mpr ⟨ordinary.moves, ordinary.downward⟩

theorem IsOrdinary.relative (ordinary : IsOrdinary name) : ¬ (FilePath.mk name).isAbsolute := by
  rw [ordinary.isAbsolute]
  exact Bool.false_ne_true

theorem IsOrdinary.place?_eq (ordinary : IsOrdinary name) (here : links home = none)
    (there : links (home ++ [name]) = none) : place? ⟨name⟩ links home = some (home ++ [name]) := by
  rw [place?, origin_of_relative ordinary.relative, ordinary.pieces, follow?_cons,
    turn?_name (unhindered_eq_directory_iff.mpr here) ordinary.goesOn, nameTurn?_unhindered, there]
  simp [pass_name ordinary.goesOn]

theorem IsOrdinary.eq_append_of_place? (ordinary : IsOrdinary name)
    (leads : place? ⟨name⟩ links home = some place) :
    place = home ++ [name] ∨ (links (home ++ [name])).isSome := by
  by_cases here : links home = none
  · cases there : links (home ++ [name]) with
    | some target => exact .inr rfl
    | none =>
        rw [ordinary.place?_eq here there] at leads
        exact .inl (Option.some.inj leads).symm
  · have closed : unhindered links home ≠ some .directory := mt unhindered_eq_directory_iff.mp here
    rw [place?, origin_of_relative ordinary.relative, ordinary.pieces, follow?_cons, turn?,
      if_pos closed] at leads
    cases leads

end FilePath

/-! ## Places of a run's files -/

open FilePath

variable {links : List String → Option FilePath} {outputDir : FilePath} {home place : List String}
  {packageIdentifier : String}

theorem isOrdinary_packages : IsOrdinary "packages.json" := by decide

theorem isOrdinary_document : IsOrdinary "document.json" := by decide

theorem Manifest.exists_placeIn? {directory : List String}
    (leads : (Manifest.path outputDir).place? links directory = some place) :
    ∃ home, outputDir.place? links directory = some home ∧
      Manifest.placeIn? links home = some place :=
  exists_place?_of_join isOrdinary_packages.relative leads

theorem Document.placeIn?_of_path {directory : List String}
    (known : outputDir.place? links directory = some home)
    (leads : (Document.path outputDir packageIdentifier).place? links directory = some place) :
    Document.placeIn? links home packageIdentifier = some place := by
  rcases exists_place?_of_join isOrdinary_document.relative leads with ⟨inner, found, last⟩
  rw [placeIn?, place?_of_join known found, Option.bind_some, last]

theorem Document.exists_placeIn? {directory : List String}
    (relative : ¬ isAbsolute ⟨packageIdentifier⟩)
    (leads : (Document.path outputDir packageIdentifier).place? links directory = some place) :
    ∃ home, outputDir.place? links directory = some home ∧
      Document.placeIn? links home packageIdentifier = some place := by
  rcases exists_place?_of_join isOrdinary_document.relative leads with ⟨inner, found, last⟩
  rcases exists_place?_of_join relative found with ⟨home, here, _⟩
  exact ⟨home, here, Document.placeIn?_of_path here leads⟩

/-- Where no link has the name of the manifest, it stands in the output directory. -/
theorem Manifest.eq_append_of_placeIn? (leads : Manifest.placeIn? links home = some place) :
    place = home ++ ["packages.json"] ∨ (links (home ++ ["packages.json"])).isSome :=
  isOrdinary_packages.eq_append_of_place? leads

/-- Where no link is in the way, a package with an ordinary identifier has its document in a
directory of that name. -/
theorem Document.eq_append_of_placeIn? (ordinary : IsOrdinary packageIdentifier)
    (leads : Document.placeIn? links home packageIdentifier = some place) :
    place = home ++ [packageIdentifier, "document.json"] ∨
      (links (home ++ [packageIdentifier])).isSome ∨
      (links (home ++ [packageIdentifier, "document.json"])).isSome := by
  rcases Option.bind_eq_some_iff.mp leads with ⟨directory, first, second⟩
  rcases ordinary.eq_append_of_place? first with rfl | linked
  · rcases isOrdinary_document.eq_append_of_place? second with rfl | linked
    · exact .inl (List.append_assoc ..)
    · rw [List.append_assoc] at linked
      exact .inr (.inr linked)
  · exact .inr (.inl linked)

end CrdCompiler
