import CrdCompiler.Proofs.TreeChanges

/-! # Changes to a disk

Making directories leaves all contents alone, and writing a text changes the contents at the place of
its path only. What has been possible stays possible: a way that was made is free ever after, and
where a text was written another can be.
-/

namespace CrdCompiler.Disk

open FilePath FileTree Route

variable {allowed : List String → Prop} {tree tree' : FileTree} {disk later last : Disk}
  {path : FilePath} {place pieces : List String} {left : Nat} {text : String} {purpose : Purpose}

def place? (disk : Disk) (path : FilePath) : Option (List String) :=
  path.place? disk.tree.links disk.workingDirectory

theorem reach?_eq_some_iff :
    disk.reach? purpose path = some place ↔
      path.isUsable ∧ ∃ spared, follow? (turn? disk.tree.standing? purpose) linkLimit
        (path.origin disk.workingDirectory) path.pieces = some (place, spared) := by
  rw [reach?]
  by_cases usable : path.isUsable
  · simp [usable]
  · simp [usable]

theorem place?_of_reach? (follows : purpose ≠ .look)
    (reached : disk.reach? purpose path = some place) : disk.place? path = some place := by
  rcases reach?_eq_some_iff.mp reached with ⟨_, spared, followed⟩
  have told := follow?_unhindered (fun _ _ => links_eq_some_iff.symm) follows followed
  rw [place?, FilePath.place?, told, Option.map_some]

theorem tree?_of_entry? {entry : FileTree} (looked : disk.entry? path = some entry)
    (plain : entry.standing.target? = none) : disk.tree? path = some entry := by
  rcases Option.bind_eq_some_iff.mp looked with ⟨place, reached, stands⟩
  rcases reach?_eq_some_iff.mp reached with ⟨usable, spared, followed⟩
  have noLink : ∀ target, disk.tree.standing? place ≠ some (.link target) := by
    intro target linked
    rw [standing?_of_at? stands, Option.some_inj] at linked
    simp [linked, Standing.target?] at plain
  have reads := reach?_eq_some_iff.mpr ⟨usable, spared, follow?_of_look noLink followed⟩
  rw [tree?, reads, Option.bind_some, stands]

/-! ## Writing -/

theorem target?_eq_some_iff :
    disk.target? path = some place ↔
      disk.reach? .write path = some place ∧
        ∀ standing ∈ disk.tree.standing? place, ∃ old, standing = .file old := by
  rw [target?]
  cases disk.reach? .write path with
  | none => simp
  | some reached =>
      simp only [Option.bind_eq_bind, Option.bind_some, Option.some.injEq]
      split
      · rename_i absent
        constructor
        · rintro ⟨rfl⟩
          simp [absent]
        · rintro ⟨rfl, _⟩
          rfl
      · rename_i old stands
        constructor
        · rintro ⟨rfl⟩
          simp [stands]
        · rintro ⟨rfl, _⟩
          rfl
      · rename_i missing other
        simp only [reduceCtorEq, false_iff, not_and]
        rintro rfl free
        cases stands : disk.tree.standing? reached with
        | none => exact missing stands
        | some standing =>
            rcases free standing stands with ⟨old, rfl⟩
            exact other old stands

theorem exists_around_of_target? (targeted : disk.target? path = some place) :
    ∃ directory name, place = directory ++ [name] ∧
      disk.tree.standing? directory = some .directory := by
  rcases target?_eq_some_iff.mp targeted with ⟨reached, free⟩
  rcases reach?_eq_some_iff.mp reached with ⟨_, spared, followed⟩
  have rooted : ∀ place, disk.tree.standing? place = some .directory →
      disk.tree.standing? place.dropLast = some .directory := fun _ => standing?_dropLast
  rcases follow?_ends rooted path.pieces_ne_nil followed with directory | around
  · exact absurd directory (ne_directory_of_free free)
  · exact around

theorem place?_of_target? (targeted : disk.target? path = some place) :
    disk.place? path = some place := by
  have follows : Purpose.write ≠ .look := by decide
  exact place?_of_reach? follows (target?_eq_some_iff.mp targeted).1

theorem writeText_eq (targeted : disk.target? path = some place) (text : String) :
    disk.writeText path text =
      ({ disk with tree := disk.tree.put place (.file (some text)) }, true) := by
  rw [writeText, targeted]

theorem exists_target_of_written (written : (disk.writeText path text).2) :
    ∃ place, disk.target? path = some place := by
  rw [writeText] at written
  cases targeted : disk.target? path with
  | none => simp [targeted] at written
  | some place => exact ⟨place, rfl⟩

theorem writeText_of_refused (refused : (disk.writeText path text).2 = false) :
    (disk.writeText path text).1 = disk := by
  unfold writeText at refused ⊢
  split
  · rename_i targeted
    simp [targeted] at refused
  · rfl

@[simp] theorem workingDirectory_writeText (disk : Disk) (path : FilePath) (text : String) :
    (disk.writeText path text).1.workingDirectory = disk.workingDirectory := by
  unfold writeText
  split <;> rfl

theorem change_of_target? (targeted : disk.target? path = some place) (permitted : allowed place)
    (text : Option String) : Change allowed disk.tree (disk.tree.put place (.file text)) := by
  have free := (target?_eq_some_iff.mp targeted).2
  rcases exists_around_of_target? targeted with ⟨directory, name, rfl, stands⟩
  exact .file stands free permitted

theorem changes_writeText (permitted : ∀ place ∈ disk.place? path, allowed place) (text : String) :
    Changes allowed disk.tree (disk.writeText path text).1.tree := by
  cases targeted : disk.target? path with
  | none => rw [writeText, targeted]
  | some place =>
      rw [writeText_eq targeted]
      exact .single (change_of_target? targeted (permitted _ (place?_of_target? targeted)) _)

@[simp] theorem links_writeText (disk : Disk) (path : FilePath) (text : String) :
    (disk.writeText path text).1.tree.links = disk.tree.links := by
  have changes : Changes (fun _ => True) disk.tree (disk.writeText path text).1.tree :=
    changes_writeText (fun _ _ => trivial) text
  exact changes.links

@[simp] theorem place?_writeText (disk : Disk) (written path : FilePath) (text : String) :
    (disk.writeText written text).1.place? path = disk.place? path := by
  rw [place?, place?, links_writeText, workingDirectory_writeText]

theorem standing?_writeText (targeted : disk.target? path = some place) (text : String) :
    (disk.writeText path text).1.tree.standing? =
      Function.update disk.tree.standing? place (some (.file (some text))) := by
  have free := (target?_eq_some_iff.mp targeted).2
  rcases exists_around_of_target? targeted with ⟨directory, name, rfl, stands⟩
  rw [writeText_eq targeted]
  exact standing?_put stands (isLeaf_file _) (ne_directory_of_free free)

theorem contents_writeText_of_target? (targeted : disk.target? path = some place) (text : String) :
    (disk.writeText path text).1.tree.contents =
      Function.update disk.tree.contents place (some (some text)) := by
  funext other
  rw [FileTree.contents, standing?_writeText targeted, Function.update_apply, Function.update_apply]
  split <;> rfl

theorem contents_writeText (written : (disk.writeText path text).2) :
    ∃ place, disk.place? path = some place ∧
      (disk.writeText path text).1.tree.contents =
        Function.update disk.tree.contents place (some (some text)) := by
  rcases exists_target_of_written written with ⟨place, targeted⟩
  exact ⟨place, place?_of_target? targeted, contents_writeText_of_target? targeted text⟩

/-! ## Making directories -/

theorem changes_makeWay (tree : FileTree) (left : Nat) (place pieces : List String) :
    Changes allowed tree (makeWay tree left place pieces).1 := by
  fun_induction makeWay tree left place pieces with
  | case1 => exact .refl
  | case2 tree left place piece rest turned induction => exact induction
  | case3 tree left place piece rest target turned reached spared found induction =>
      exact induction
  | case4 => exact .refl
  | case5 tree left place piece rest turned may induction =>
      exact .head (.directory may.1 may.2.1) induction
  | case6 => exact .refl

theorem keeps_makeWay (tree : FileTree) (left : Nat) (place pieces : List String) :
    Keeps tree.standing? (makeWay tree left place pieces).1.standing? := by
  have changes : Changes (fun _ => False) tree (makeWay tree left place pieces).1 :=
    changes_makeWay tree left place pieces
  exact changes.keeps

theorem makeWay_of_follow? {reached : List String} {spared : Nat}
    (followed : follow? (turn? tree.standing? .read) left place pieces = some (reached, spared))
    (directory : tree.standing? reached = some .directory) :
    makeWay tree left place pieces = (tree, true) := by
  induction pieces generalizing left place with
  | nil =>
      rw [follow?_nil] at followed
      cases followed
      simp [makeWay, directory]
  | cons piece rest induction =>
      rw [follow?_cons] at followed
      rw [makeWay]
      cases turned : turn? tree.standing? .read place piece rest with
      | none => simp [turned] at followed
      | some way =>
          rw [turned] at followed
          cases way with
          | on => exact induction followed
          | along target =>
              dsimp only at followed
              rw [detour?_read_append] at followed
              rcases Option.bind_eq_some_iff.mp followed with ⟨⟨inner, spared'⟩, found, followed⟩
              simp only [found]
              exact induction followed

theorem follow?_makeWay (done : (makeWay tree left place pieces).2) :
    ∃ reached spared,
      follow? (turn? (makeWay tree left place pieces).1.standing? .read) left place pieces =
          some (reached, spared) ∧
        (makeWay tree left place pieces).1.standing? reached = some .directory := by
  fun_induction makeWay tree left place pieces with
  | case1 tree left place => exact ⟨place, left, follow?_nil .., by simpa using done⟩
  | case2 tree left place piece rest turned induction =>
      rcases induction done with ⟨reached, spared, followed, directory⟩
      have keeps := keeps_makeWay tree left (FilePath.pass place piece) rest
      refine ⟨reached, spared, ?_, directory⟩
      rw [follow?_cons, keeps.turn? turned]
      exact followed
  | case3 tree left place piece rest target turned inner spared found induction =>
      rcases induction done with ⟨reached, spared', followed, directory⟩
      have keeps := keeps_makeWay tree spared inner rest
      refine ⟨reached, spared', ?_, directory⟩
      rw [follow?_cons, keeps.turn? turned]
      dsimp only
      rw [detour?_read_append, keeps.detour? found, Option.bind_some, followed]
  | case4 => cases done
  | case5 tree left place piece rest turned may induction =>
      rcases may with ⟨stands, absent, may⟩
      rcases induction done with ⟨reached, spared, followed, directory⟩
      have moves : ¬ (staysPut piece ∨ piece = "..") := by
        intro stays
        rw [turn?_inPlace stands stays] at turned
        cases turned
      have keeps := keeps_makeWay (tree.put (place ++ [piece]) (.directory [])) left
        (place ++ [piece]) rest
      have free : tree.standing? (place ++ [piece]) ≠ some .directory := by simp [absent]
      have made := standing?_put stands isLeaf_empty free
      have here := keeps.directory place (by
        rw [made, Function.update_of_ne (by simp)]
        exact stands)
      have there := keeps.directory (place ++ [piece]) (by
        rw [made, Function.update_self]
        rfl)
      refine ⟨reached, spared, ?_, directory⟩
      rw [follow?_cons, turn?_name here moves, there, pass_name moves]
      exact followed
  | case6 => cases done

@[simp] theorem workingDirectory_createDirectories (disk : Disk) (path : FilePath) :
    (disk.createDirectories path).1.workingDirectory = disk.workingDirectory := by
  unfold createDirectories
  split
  · rfl
  · split <;> rfl

theorem changes_createDirectories (disk : Disk) (path : FilePath) :
    Changes allowed disk.tree (disk.createDirectories path).1.tree := by
  unfold createDirectories
  split
  · exact .refl
  · split
    · exact changes_makeWay disk.tree linkLimit (path.origin disk.workingDirectory) path.pieces
    · exact .refl

@[simp] theorem contents_createDirectories (disk : Disk) (path : FilePath) :
    (disk.createDirectories path).1.tree.contents = disk.tree.contents := by
  have changes : Changes (fun _ => False) disk.tree (disk.createDirectories path).1.tree :=
    changes_createDirectories disk path
  funext place
  exact changes.contents not_false

@[simp] theorem links_createDirectories (disk : Disk) (path : FilePath) :
    (disk.createDirectories path).1.tree.links = disk.tree.links := by
  have changes : Changes (fun _ => False) disk.tree (disk.createDirectories path).1.tree :=
    changes_createDirectories disk path
  exact changes.links

@[simp] theorem place?_createDirectories (disk : Disk) (made path : FilePath) :
    (disk.createDirectories made).1.place? path = disk.place? path := by
  rw [place?, place?, links_createDirectories, workingDirectory_createDirectories]

/-! ## Later disks -/

/-- A disk after some changes, seen from the same working directory. -/
structure Later (allowed : List String → Prop) (disk later : Disk) : Prop where
  home : later.workingDirectory = disk.workingDirectory
  changes : Changes allowed disk.tree later.tree

namespace Later

theorem refl (allowed : List String → Prop) (disk : Disk) : Later allowed disk disk :=
  ⟨rfl, .refl⟩

theorem trans (first : Later allowed disk later) (second : Later allowed later last) :
    Later allowed disk last :=
  ⟨second.home.trans first.home, first.changes.trans second.changes⟩

theorem createDirectories (disk : Disk) (path : FilePath) :
    Later allowed disk (disk.createDirectories path).1 :=
  ⟨workingDirectory_createDirectories disk path, changes_createDirectories disk path⟩

theorem writeText (permitted : ∀ place ∈ disk.place? path, allowed place) (text : String) :
    Later allowed disk (disk.writeText path text).1 :=
  ⟨workingDirectory_writeText disk path text, changes_writeText permitted text⟩

theorem place?_eq (after : Later allowed disk later) (path : FilePath) :
    later.place? path = disk.place? path := by
  rw [place?, place?, after.home, after.changes.links]

theorem reach? (after : Later allowed disk later) (reached : disk.reach? purpose path = some place) :
    later.reach? purpose path = some place := by
  rcases reach?_eq_some_iff.mp reached with ⟨usable, spared, followed⟩
  refine reach?_eq_some_iff.mpr ⟨usable, spared, ?_⟩
  rw [after.home]
  exact after.changes.keeps.follow? followed

theorem standing?_eq (after : Later allowed disk later) {standing : Standing}
    (kept : ¬ allowed place) (stands : disk.tree.standing? place = some standing) :
    later.tree.standing? place = some standing := by
  have becomes := after.changes.becomes place
  rw [stands] at becomes
  generalize later.tree.standing? place = there at becomes
  cases becomes with
  | same => rfl
  | rewritten permitted => exact absurd permitted kept

end Later

theorem createDirectories_again (made : (disk.createDirectories path).2)
    (after : Later allowed (disk.createDirectories path).1 later) :
    later.createDirectories path = (later, true) := by
  have home := after.home.trans (workingDirectory_createDirectories disk path)
  have changes := after.changes
  unfold createDirectories at made changes ⊢
  split
  · rfl
  · rename_i told
    rw [if_neg told] at made changes
    split at made
    · rename_i usable
      rw [if_pos usable] at changes ⊢
      rcases follow?_makeWay made with ⟨reached, spared, followed, directory⟩
      rw [← home] at followed directory changes
      rw [makeWay_of_follow? (changes.keeps.follow? followed)
        (changes.keeps.directory reached directory)]
    · cases made

/-- Where a text has been written, another can be, and nothing comes to stand where nothing
stands. -/
theorem writeText_again (written : (disk.writeText path text).2)
    (permitted : ∀ place ∈ disk.place? path, allowed place)
    (after : Later allowed (disk.writeText path text).1 later) (other : String) :
    (later.writeText path other).2 ∧
      ∀ place, later.tree.standing? place = none →
        (later.writeText path other).1.tree.standing? place = none := by
  rcases exists_target_of_written written with ⟨target, targeted⟩
  rcases target?_eq_some_iff.mp targeted with ⟨reached, _⟩
  have whole := (Later.writeText permitted text).trans after
  have stored : ((disk.writeText path text).1.tree.contents target).isSome := by
    rw [contents_writeText_of_target? targeted, Function.update_self]
    rfl
  rcases Option.isSome_iff_exists.mp (after.changes.file stored) with ⟨held, holds⟩
  have stands : later.tree.standing? target = some (.file held) := by
    rw [contents_eq_some_iff] at holds
    exact standing?_of_at? holds
  have again : later.target? path = some target := by
    refine target?_eq_some_iff.mpr ⟨whole.reach? reached, ?_⟩
    intro standing here
    cases stands.symm.trans here
    exact ⟨held, rfl⟩
  refine ⟨by rw [writeText_eq again], ?_⟩
  intro place absent
  rw [standing?_writeText again, Function.update_of_ne, absent]
  rintro rfl
  cases stands.symm.trans absent

end CrdCompiler.Disk
