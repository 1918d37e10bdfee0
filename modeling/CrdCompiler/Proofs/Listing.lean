import CrdCompiler.Proofs.SessionSteps

/-! # Listed files

The files that are listed below a directory stand below its place. As long as no file is put there,
the listing is the same, whatever else happens to the disk; a listed file reads the same, or a listed
link, if nothing happens at the places that the link passes.
-/

namespace CrdCompiler

/-- Every directory has its members under distinct ordinary names, as in any system of files. -/
inductive FileTree.IsProper : FileTree → Prop where
  | file (text : Option String) : IsProper (.file text)
  | directory {members : List (String × FileTree)} (distinct : (members.map Prod.fst).Nodup)
      (ordinary : ∀ name ∈ members.map Prod.fst, FilePath.IsOrdinary name)
      (each : ∀ member ∈ members, member.2.IsProper) :
      IsProper (.directory members)
  | link (target : FilePath) : IsProper (.link target)

namespace FileTree

theorem IsProper.at? {tree inner : FileTree} {place : List String} (proper : tree.IsProper)
    (stands : tree.at? place = some inner) : inner.IsProper := by
  induction place generalizing tree with
  | nil =>
      rw [FileTree.at?] at stands
      cases stands
      exact proper
  | cons name rest induction =>
      cases proper with
      | file text => cases stands
      | link target => cases stands
      | directory distinct ordinary each =>
          rcases Option.bind_eq_some_iff.mp stands with ⟨below, found, stands⟩
          exact induction (each _ ((lookup_eq_some_iff_mem distinct).mp found)) stands

theorem IsProper.ordinary_of_at? {tree inner : FileTree} {place : List String}
    (proper : tree.IsProper) (stands : tree.at? place = some inner) :
    ∀ name ∈ place, FilePath.IsOrdinary name := by
  induction place generalizing tree with
  | nil => exact List.forall_mem_nil _
  | cons name rest induction =>
      cases proper with
      | file text => cases stands
      | link target => cases stands
      | directory distinct ordinary proper =>
          rcases Option.bind_eq_some_iff.mp stands with ⟨below, found, stands⟩
          have member := mem_of_lookup found
          exact List.forall_mem_cons.mpr ⟨ordinary name (List.mem_map_of_mem member),
            induction (proper _ member) stands⟩

theorem mem_files_directory {path file : FilePath} {members : List (String × FileTree)} :
    file ∈ (directory members).files path ↔
      ∃ name tree, (name, tree) ∈ members ∧ file ∈ tree.files (path.join ⟨name⟩) := by
  rw [files, List.mem_flatMap]
  constructor
  · intro holds
    rcases holds with ⟨listed, member, inside⟩
    rw [List.mem_mergeSort, memberFiles_eq_map] at member
    rcases List.mem_map.mp member with ⟨⟨name, tree⟩, held, rfl⟩
    exact ⟨name, tree, held, inside⟩
  · intro holds
    rcases holds with ⟨name, tree, held, inside⟩
    refine ⟨(name, tree.files (path.join ⟨name⟩)), ?_, inside⟩
    rw [List.mem_mergeSort, memberFiles_eq_map]
    exact List.mem_map_of_mem held

theorem files_of_not_directory {tree : FileTree} {path : FilePath}
    (plain : tree.standing ≠ .directory) : tree.files path = [path] := by
  cases tree with
  | file text => rw [files]
  | link target => rw [files]
  | directory members => exact absurd rfl plain

end FileTree

namespace Disk

open FileTree FilePath Route

variable {disk later : Disk} {path file : FilePath} {place rest : List String} {spared : Nat}
  {name : String} {allowed : List String → Prop}

/-- The path leads to a place, with so many links left to be met. -/
def Reaches (disk : Disk) (path : FilePath) (place : List String) (spared : Nat) : Prop :=
  follow? (turn? disk.tree.standing? .read) linkLimit (path.origin disk.workingDirectory)
    path.pieces = some (place, spared)

theorem Reaches.after (reaches : Reaches disk path place spared)
    (after : Later allowed disk later) : Reaches later path place spared := by
  rw [Reaches, after.home]
  exact after.changes.keeps.follow? reaches

theorem readText?_of_reach? (reaches : disk.reach? .read path = some place) :
    disk.readText? path = (disk.tree.contents place).join := by
  rw [readText?, tree?, reaches, Option.bind_some, contents, standing?]
  cases disk.tree.at? place with
  | none => rfl
  | some tree => cases tree <;> rfl

theorem readText?_eq (disk : Disk) (path : FilePath) :
    disk.readText? path =
      if path.isUsable then
        ((follow? (turn? disk.tree.standing? .read) linkLimit (path.origin disk.workingDirectory)
          path.pieces).bind fun reached => disk.tree.contents reached.1).join
      else none := by
  cases reaches : disk.reach? .read path with
  | some place =>
      rcases reach?_eq_some_iff.mp reaches with ⟨usable, spared, followed⟩
      rw [readText?_of_reach? reaches, if_pos usable, followed, Option.bind_some]
  | none =>
      rw [readText?, tree?, reaches, Option.bind_none]
      rw [reach?] at reaches
      split at reaches
      · rename_i usable
        rw [if_pos usable, Option.map_eq_none_iff.mp reaches]
        rfl
      · rename_i unusable
        rw [if_neg unusable]

theorem Reaches.readText?_join (reaches : Reaches disk path place spared)
    (ordinary : IsOrdinary name) :
    disk.readText? (path.join ⟨name⟩) =
      if (path.join ⟨name⟩).isUsable then
        ((follow? (turn? disk.tree.standing? .read) spared place [name]).bind fun reached =>
          disk.tree.contents reached.1).join
      else none := by
  rw [readText?_eq, follow?_join _ _ _ ordinary.relative, reaches, Option.bind_some, ordinary.pieces]

theorem Reaches.join (reaches : Reaches disk path place spared) (ordinary : IsOrdinary name)
    (directory : disk.tree.standing? (place ++ [name]) = some .directory) :
    Reaches disk (path.join ⟨name⟩) (place ++ [name]) spared := by
  have around : disk.tree.standing? place = some .directory :=
    standing?_around (Option.isSome_of_eq_some directory)
  rw [Reaches, follow?_join _ _ _ ordinary.relative, reaches, Option.bind_some, ordinary.pieces,
    follow?_cons, turn?_name around ordinary.goesOn, directory]
  simp [nameTurn?, pass_name ordinary.goesOn]

/-- The file is a member of a directory at the place or below it, and is no directory itself. -/
def LiesBelow (disk : Disk) (place : List String) (file : FilePath) : Prop :=
  ∃ path rest name spared, file = path.join ⟨name⟩ ∧ IsOrdinary name ∧
    Reaches disk path (place ++ rest) spared ∧
    ∃ standing, disk.tree.standing? (place ++ rest ++ [name]) = some standing ∧
      standing ≠ .directory

theorem Reaches.of_listed {tree : FileTree} (proper : tree.IsProper)
    (reaches : Reaches disk path place spared) (stands : disk.tree.at? place = some tree)
    (directory : tree.standing = .directory) (listed : file ∈ tree.files path) :
    LiesBelow disk place file := by
  induction proper generalizing path place with
  | file text => cases directory
  | link target => cases directory
  | @directory members distinct ordinary each induction =>
      rcases mem_files_directory.mp listed with ⟨name, tree, member, inside⟩
      have found := (lookup_eq_some_iff_mem distinct).mpr member
      have named := ordinary name (List.mem_map_of_mem member)
      have below : disk.tree.at? (place ++ [name]) = some tree := by
        rw [at?_append, stands, Option.bind_some, at?_singleton, found]
      have standing := standing?_of_at? below
      by_cases deeper : tree.standing = .directory
      · have joined := reaches.join named (standing.trans (congrArg some deeper))
        rcases induction _ member joined below deeper inside with
          ⟨path, rest, last, spared, same, ordinary, reaches, held⟩
        refine ⟨path, name :: rest, last, spared, same, ordinary, ?_, ?_⟩
        · rwa [List.append_assoc] at reaches
        · rwa [List.append_assoc place] at held
      · rw [files_of_not_directory deeper, List.mem_singleton] at inside
        refine ⟨path, [], name, spared, inside, named, ?_, _, ?_, deeper⟩
        · rwa [List.append_nil]
        · rw [List.append_nil, standing]

end Disk

namespace Generation

open Disk FileTree FilePath Route

variable {disk left later state : Disk} {directory file : FilePath} {files : List FilePath}
  {place passed : List String} {allowed : List String → Prop}

theorem listing_eq_ok_iff :
    listing disk directory = .ok files ↔
      ∃ tree entry, disk.tree? directory = some tree ∧ disk.entry? directory = some entry ∧
        filesFrom directory tree entry = files := by
  rw [listing]
  cases disk.tree? directory with
  | none => simp
  | some tree => cases disk.entry? directory <;> simp

theorem filesFrom_eq (directory : FilePath) (tree entry : FileTree) :
    filesFrom directory tree entry =
      (if tree.standing = .directory ∧ entry.standing.target?.isSome then [directory] else []) ++
        tree.files directory := by
  cases tree with
  | file text => rfl
  | link target => rfl
  | directory members => cases entry <;> rfl

/-- A listing stays the same while no file is put below the directory. -/
theorem listing_later (listed : listing disk directory = .ok files)
    (meant : disk.place? directory = some place) (after : Later allowed disk later)
    (apart : ∀ target, allowed target → ¬ place <+: target) :
    listing later directory = .ok files := by
  rcases listing_eq_ok_iff.mp listed with ⟨tree, entry, found, looked, rfl⟩
  rcases Option.bind_eq_some_iff.mp found with ⟨reached, reaches, stands⟩
  rcases Option.bind_eq_some_iff.mp looked with ⟨under, looks, standsUnder⟩
  have follows : Purpose.read ≠ .look := by decide
  cases meant.symm.trans (place?_of_reach? follows reaches)
  rcases after.changes.files stands with ⟨tree', stands', files⟩
  rcases after.changes.files standsUnder with ⟨entry', standsUnder', _⟩
  have kind := after.changes.becomes place
  have kindUnder := after.changes.becomes under
  rw [standing?_of_at? stands, standing?_of_at? stands'] at kind
  rw [standing?_of_at? standsUnder, standing?_of_at? standsUnder'] at kindUnder
  refine listing_eq_ok_iff.mpr ⟨tree', entry', ?_, ?_, ?_⟩
  · exact Option.bind_eq_some_iff.mpr ⟨place, after.reach? reaches, stands'⟩
  · exact Option.bind_eq_some_iff.mpr ⟨under, after.reach? looks, standsUnder'⟩
  · simp only [filesFrom_eq, kind.kind.1, kindUnder.kind.2, files apart]

/-- A state of a disk during runs that start from one disk and leave another: whatever stands in it
stands in the end. -/
structure Within (allowed : List String → Prop) (disk left state : Disk) : Prop where
  later : Later allowed disk state
  nothing : ∀ place, left.tree.standing? place = none → state.tree.standing? place = none

def Untouched (allowed : List String → Prop) (disk left : Disk) (place : List String) : Prop :=
  ¬ allowed place ∧ left.tree.standing? place = disk.tree.standing? place

theorem Within.standing?_eq (within : Within allowed disk left state)
    (untouched : Untouched allowed disk left place) :
    state.tree.standing? place = disk.tree.standing? place := by
  rcases untouched with ⟨kept, same⟩
  cases stands : disk.tree.standing? place with
  | none => exact within.nothing place (same.trans stands)
  | some standing => exact within.later.standing?_eq kept stands

/-- The links at or below a place lead along places that are not touched. -/
def LinksUntouched (allowed : List String → Prop) (disk left : Disk) (place : List String) : Prop :=
  ∀ rest target passed, disk.tree.links (place ++ rest) = some target →
    Passes disk.tree.links passed (target.origin (place ++ rest).dropLast) target.pieces →
      Untouched allowed disk left passed

/-- What a path to a file or link below the directory passes reads the same. -/
theorem Within.readText?_of_liesBelow (within : Within allowed disk left state)
    (apart : ∀ target, allowed target → ¬ place <+: target)
    (untouched : LinksUntouched allowed disk left place) (below : LiesBelow disk place file) :
    state.readText? file = disk.readText? file := by
  rcases below with ⟨path, rest, name, spared, rfl, ordinary, reaches, standing, stands, _⟩
  have told : ∀ place target, disk.tree.standing? place = some (.link target) ↔
      disk.tree.links place = some target := fun _ _ => links_eq_some_iff.symm
  have told' : ∀ place target, state.tree.standing? place = some (.link target) ↔
      disk.tree.links place = some target := by
    intro place target
    rw [← within.later.changes.links, links_eq_some_iff]
  have same : ∀ passed, Passes disk.tree.links passed (place ++ rest) [name] →
      state.tree.standing? passed = disk.tree.standing? passed := by
    intro passed passes
    cases passes with
    | here =>
        have around := standing?_around (Option.isSome_of_eq_some stands)
        exact (within.later.changes.keeps.directory _ around).trans around.symm
    | on turns later =>
        cases later
        rw [pass_name ordinary.goesOn]
        have kept : ¬ allowed (place ++ rest ++ [name]) := by
          intro permitted
          exact apart _ permitted (List.append_assoc place rest [name] ▸ List.prefix_append ..)
        exact (within.later.standing?_eq kept stands).trans stands.symm
    | along turns later =>
        rename_i target
        apply within.standing?_eq
        apply untouched (rest ++ [name]) target
        · rw [← List.append_assoc]
          exact links_of_along turns
        · rw [← List.append_assoc, List.dropLast_concat]
          rwa [List.append_nil] at later
  rw [reaches.readText?_join ordinary, (reaches.after within.later).readText?_join ordinary,
    follow?_congr told told' same]
  cases followed : follow? (turn? disk.tree.standing? .read) spared (place ++ rest) [name] with
  | none => rfl
  | some reached =>
      rw [Option.bind_some, Option.bind_some, contents, contents,
        same reached.1 (follow?_passes told followed)]

/-- A listed file reads the same while no file is put below the directory and links do not lead to
what is touched. -/
theorem Within.readText?_eq (within : Within allowed disk left state) (proper : disk.tree.IsProper)
    (listed : listing disk directory = .ok files) (meant : disk.place? directory = some place)
    (apart : ∀ target, allowed target → ¬ place <+: target)
    (untouched : LinksUntouched allowed disk left place) (member : file ∈ files) :
    state.readText? file = disk.readText? file := by
  rcases listing_eq_ok_iff.mp listed with ⟨tree, entry, found, _, rfl⟩
  rcases Option.bind_eq_some_iff.mp found with ⟨reached, reaches, stands⟩
  have follows : Purpose.read ≠ .look := by decide
  cases meant.symm.trans (place?_of_reach? follows reaches)
  have itself : state.readText? directory = disk.readText? directory := by
    have kept : ¬ allowed place := fun permitted => apart place permitted List.prefix_rfl
    rw [readText?_of_reach? reaches, readText?_of_reach? (within.later.reach? reaches),
      within.later.changes.contents kept]
  rw [filesFrom_eq, List.mem_append] at member
  rcases member with heading | inside
  · split at heading
    · rwa [List.mem_singleton.mp heading]
    · cases heading
  · by_cases deeper : tree.standing = .directory
    · rcases reach?_eq_some_iff.mp reaches with ⟨_, spared, followed⟩
      apply within.readText?_of_liesBelow apart untouched
      exact Reaches.of_listed (proper.at? stands) followed stands deeper inside
    · rw [files_of_not_directory deeper, List.mem_singleton] at inside
      rwa [inside]

end Generation

end CrdCompiler
