import CrdCompiler.Proofs.ByteOrder
import CrdCompiler.Proofs.Listing
import CrdCompiler.Proofs.PathComponents

/-! # The order of a walk

A walk meets every directory before its members and goes through the members in the byte order of
their names. Along a walk the places ascend in one global order, the lexicographic order of their
names; so there is one walk through a tree, in whatever order its directories list their members,
and the listed files are the files that it meets.
-/

namespace CrdCompiler

def FilePath.descend (base : FilePath) : List String → FilePath
  | [] => base
  | name :: rest => (base.join ⟨name⟩).descend rest

namespace FileTree

/-- What a walk meets: the names that lead to it, and whether it is a directory. -/
structure Entry where
  place : List String
  isDirectory : Bool
deriving DecidableEq

namespace Entry

def within (name : String) (entry : Entry) : Entry :=
  { entry with place := name :: entry.place }

/-- Places compare name by name, and names byte by byte. -/
def Precedes (left right : Entry) : Prop :=
  left.place.map Text.bytes < right.place.map Text.bytes

theorem precedes_irrefl (entry : Entry) : ¬ entry.Precedes entry :=
  List.lt_irrefl _

theorem Precedes.asymm {left right : Entry} (precedes : left.Precedes right) :
    ¬ right.Precedes left :=
  List.lt_asymm precedes

theorem precedes_within_iff {name : String} {left right : Entry} :
    (left.within name).Precedes (right.within name) ↔ left.Precedes right := by
  simp [Precedes, within]

theorem precedes_within_of_lt {leftName rightName : String}
    (less : Text.bytes leftName < Text.bytes rightName) (left right : Entry) :
    (left.within leftName).Precedes (right.within rightName) := by
  simp only [Precedes, within, List.map_cons, List.cons_lt_cons_iff]
  exact .inl less

end Entry

/-- A walk meets a directory before its members, and these one after the other in the byte order of
their names, each with all that is below it. -/
inductive Walk : FileTree → List Entry → Prop where
  | file (text : Option String) : Walk (.file text) [⟨[], false⟩]
  | link (target : FilePath) : Walk (.link target) [⟨[], false⟩]
  | directory {members ordered : List (String × FileTree)} (order : ordered.Perm members)
      (ascending : ordered.Pairwise fun left right => Text.bytes left.1 < Text.bytes right.1)
      (walks : String × FileTree → List Entry)
      (each : ∀ member ∈ members, Walk member.2 (walks member)) :
      Walk (.directory members)
        (⟨[], true⟩ :: ordered.flatMap fun member => (walks member).map (Entry.within member.1))

def filePlaces (entries : List Entry) : List (List String) :=
  (entries.filter (!·.isDirectory)).map Entry.place

/-! ## Along a walk -/

variable {tree tree' : FileTree} {entries entries' : List Entry}

theorem nodup_of_ascending {ordered : List (String × FileTree)}
    (ascending : ordered.Pairwise fun left right => Text.bytes left.1 < Text.bytes right.1) :
    (ordered.map Prod.fst).Nodup := by
  apply List.pairwise_map.mpr
  apply ascending.imp
  intro left right less same
  rw [same] at less
  exact List.lt_irrefl _ less

theorem Walk.mem_iff (walk : Walk tree entries) {entry : Entry} :
    entry ∈ entries ↔
      ∃ inner, tree.at? entry.place = some inner ∧ inner.isDirectory = entry.isDirectory := by
  induction walk generalizing entry with
  | file | link =>
      rcases entry with ⟨place, kind⟩
      cases place with
      | nil => simp [at?, FileTree.isDirectory, eq_comm]
      | cons name rest => simp [at?]
  | @directory members ordered order ascending walks each induction =>
      have distinct : (members.map Prod.fst).Nodup :=
        (order.map Prod.fst).nodup (nodup_of_ascending ascending)
      rcases entry with ⟨place, kind⟩
      cases place with
      | nil => simp [at?, FileTree.isDirectory, Entry.within, eq_comm]
      | cons name rest =>
          rw [List.mem_cons, List.mem_flatMap]
          constructor
          · intro met
            rcases met with impossible | ⟨⟨held, inner⟩, member, below⟩
            · cases impossible
            rcases List.mem_map.mp below with ⟨entry, met, same⟩
            cases same
            have found := (lookup_eq_some_iff_mem distinct).mpr (order.mem_iff.mp member)
            rw [at?, found, Option.bind_some]
            exact (induction _ (order.mem_iff.mp member)).mp met
          · intro holds
            rcases holds with ⟨inner, stands, same⟩
            rcases Option.bind_eq_some_iff.mp stands with ⟨below, found, stands⟩
            have member := (lookup_eq_some_iff_mem distinct).mp found
            have met : ⟨rest, kind⟩ ∈ walks (name, below) :=
              (induction _ member).mpr ⟨inner, stands, same⟩
            exact .inr ⟨(name, below), order.mem_iff.mpr member,
              List.mem_map_of_mem (f := Entry.within name) met⟩

theorem Walk.ascends (walk : Walk tree entries) : entries.Pairwise Entry.Precedes := by
  induction walk with
  | file | link => exact List.pairwise_singleton _ _
  | @directory members ordered order ascending walks each induction =>
      rw [List.pairwise_cons, List.pairwise_flatMap]
      refine ⟨?_, ?_, ?_⟩
      · intro entry met
        rcases List.mem_flatMap.mp met with ⟨member, _, below⟩
        rcases List.mem_map.mp below with ⟨inner, _, rfl⟩
        exact List.nil_lt_cons _ _
      · intro member held
        apply List.pairwise_map.mpr
        apply (induction member (order.mem_iff.mp held)).imp
        intro left right precedes
        exact Entry.precedes_within_iff.mpr precedes
      · apply ascending.imp
        intro left right less entry met entry' met'
        rcases List.mem_map.mp met with ⟨inner, _, rfl⟩
        rcases List.mem_map.mp met' with ⟨inner', _, rfl⟩
        exact Entry.precedes_within_of_lt less inner inner'

theorem Walk.eq_of_mem_iff (walk : Walk tree entries) (walk' : Walk tree' entries')
    (same : ∀ entry, entry ∈ entries ↔ entry ∈ entries') : entries = entries' := by
  have nodup {tree : FileTree} {entries : List Entry} (walk : Walk tree entries) :
      entries.Nodup := by
    apply walk.ascends.imp
    rintro entry _ precedes rfl
    exact entry.precedes_irrefl precedes
  have order : entries.Perm entries' :=
    (List.perm_ext_iff_of_nodup (nodup walk) (nodup walk')).mpr same
  exact order.eq_of_pairwise (fun _ _ _ _ less greater => (less.asymm greater).elim)
    walk.ascends walk'.ascends

theorem IsProper.exists_walk (proper : tree.IsProper) : ∃ entries, Walk tree entries := by
  induction proper with
  | file text => exact ⟨_, .file text⟩
  | link target => exact ⟨_, .link target⟩
  | @directory members distinct ordinary each induction =>
      have chosen (member : String × FileTree) :
          ∃ entries, member ∈ members → Walk member.2 entries := by
        by_cases held : member ∈ members
        · rcases induction member held with ⟨entries, walk⟩
          exact ⟨entries, fun _ => walk⟩
        · exact ⟨[], fun impossible => absurd impossible held⟩
      choose walks walk using chosen
      have ascending := (mergeSort_key_ascends distinct).imp Text.bytes_lt_bytes.mpr
      exact ⟨_, .directory (members.mergeSort_perm _) ascending walks walk⟩

theorem Walk.unique (walk : Walk tree entries) (walk' : Walk tree entries') :
    entries = entries' :=
  walk.eq_of_mem_iff walk' fun _ => walk.mem_iff.trans walk'.mem_iff.symm

theorem filePlaces_flatMap (ordered : List (String × FileTree))
    (walks : String × FileTree → List Entry) :
    filePlaces (ordered.flatMap fun member => (walks member).map (Entry.within member.1)) =
      ordered.flatMap fun member => (filePlaces (walks member)).map (member.1 :: ·) := by
  simp only [filePlaces, List.filter_flatMap, List.map_flatMap, List.filter_map, List.map_map]
  rfl

theorem Walk.files_eq (walk : Walk tree entries) (directory : FilePath) :
    tree.files directory = (filePlaces entries).map directory.descend := by
  induction walk generalizing directory with
  | file | link => rw [files, filePlaces]; rfl
  | @directory members ordered order ascending walks each induction =>
      have listed : (memberFiles directory members).mergeSort (fun left right => left.1 ≤ right.1) =
          ordered.map fun member => (member.1, member.2.files (directory.join ⟨member.1⟩)) := by
        rw [memberFiles_eq_map]
        apply mergeSort_key_eq_of_ascends (order.map _)
        exact List.pairwise_map.mpr (ascending.imp Text.bytes_lt_bytes.mp)
      have below : filePlaces
          (⟨[], true⟩ :: ordered.flatMap fun member => (walks member).map (Entry.within member.1)) =
            ordered.flatMap fun member => (filePlaces (walks member)).map (member.1 :: ·) :=
        filePlaces_flatMap ordered walks
      rw [files, listed, below, List.flatMap_map, List.map_flatMap]
      apply List.flatMap_congr
      intro member held
      rw [induction member (order.mem_iff.mp held), List.map_map]
      rfl

theorem Walk.mem_filePlaces_iff (walk : Walk tree entries) {place : List String} :
    place ∈ filePlaces entries ↔
      ∃ inner, tree.at? place = some inner ∧ inner.isDirectory = false := by
  rw [filePlaces, List.mem_map]
  constructor
  · intro holds
    rcases holds with ⟨entry, kept, rfl⟩
    rcases List.mem_filter.mp kept with ⟨met, plain⟩
    rcases walk.mem_iff.mp met with ⟨inner, stands, same⟩
    exact ⟨inner, stands, same.trans (by simpa using plain)⟩
  · intro holds
    rcases holds with ⟨inner, stands, plain⟩
    exact ⟨⟨place, false⟩, List.mem_filter.mpr ⟨walk.mem_iff.mpr ⟨inner, stands, plain⟩, rfl⟩, rfl⟩

theorem Walk.filePlaces_ascend (walk : Walk tree entries) :
    (filePlaces entries).Pairwise fun left right =>
      left.map Text.bytes < right.map Text.bytes :=
  List.pairwise_map.mpr (walk.ascends.filter _)

/-! ## Trees listed in another order -/

/-- The same tree, except that directories may list their members in another order. -/
inductive Reordered : FileTree → FileTree → Prop where
  | file (text : Option String) : Reordered (.file text) (.file text)
  | link (target : FilePath) : Reordered (.link target) (.link target)
  | directory {members members' : List (String × FileTree)} (change : String × FileTree → FileTree)
      (each : ∀ member ∈ members, Reordered member.2 (change member))
      (order : (members.map fun member => (member.1, change member)).Perm members') :
      Reordered (.directory members) (.directory members')

theorem Reordered.isProper (reordered : Reordered tree tree') (proper : tree.IsProper) :
    tree'.IsProper := by
  induction reordered with
  | file text => exact .file text
  | link target => exact .link target
  | @directory members members' change each order induction =>
      cases proper with
      | directory distinct ordinary proper =>
          have names : (members.map Prod.fst).Perm (members'.map Prod.fst) := by
            simpa [List.map_map, Function.comp_def] using order.map Prod.fst
          refine .directory (names.nodup distinct) ?_ ?_
          · intro name member
            exact ordinary name (names.mem_iff.mpr member)
          · intro member held
            rcases List.mem_map.mp (order.mem_iff.mpr held) with ⟨before, stood, rfl⟩
            exact induction before stood (proper before stood)

theorem lookup_changed (members : List (String × FileTree)) (change : String × FileTree → FileTree)
    (name : String) :
    (members.map fun member => (member.1, change member)).lookup name =
      (members.lookup name).map fun tree => change (name, tree) := by
  induction members with
  | nil => rfl
  | cons member rest induction =>
      rw [List.map_cons, lookup_cons_eq_ite, lookup_cons_eq_ite, induction]
      split
      · subst name
        rfl
      · rfl

theorem Reordered.kind_at? (reordered : Reordered tree tree') (proper : tree.IsProper)
    (place : List String) :
    (tree.at? place).map FileTree.isDirectory = (tree'.at? place).map FileTree.isDirectory := by
  induction reordered generalizing place with
  | file | link => rfl
  | @directory members members' change each order induction =>
      cases proper with
      | directory distinct ordinary proper =>
          cases place with
          | nil => rw [FileTree.at?, FileTree.at?]; rfl
          | cons name rest =>
              have distinct' : ((members.map fun member => (member.1, change member)).map
                  Prod.fst).Nodup := by
                simpa [List.map_map, Function.comp_def] using distinct
              rw [FileTree.at?, FileTree.at?, ← lookup_eq_of_perm distinct' order, lookup_changed]
              cases found : members.lookup name with
              | none => rfl
              | some below =>
                  have member := (lookup_eq_some_iff_mem distinct).mp found
                  exact induction (name, below) member (proper _ member) rest

/-- The order in which directories list their members leaves no trace in a walk. -/
theorem Walk.of_reordered (walk : Walk tree entries) (proper : tree.IsProper)
    (reordered : Reordered tree tree') : Walk tree' entries := by
  rcases (reordered.isProper proper).exists_walk with ⟨entries', walk'⟩
  have same : entries = entries' := by
    apply walk.eq_of_mem_iff walk'
    intro entry
    have kinds := reordered.kind_at? proper entry.place
    rw [walk.mem_iff, walk'.mem_iff]
    simp only [← Option.map_eq_some_iff (f := FileTree.isDirectory)]
    rw [kinds]
  rw [same]
  exact walk'

end FileTree

theorem FilePath.steps_descend {names : List String} (ordinary : ∀ name ∈ names, IsOrdinary name)
    (base : FilePath) :
    (base.descend names).isAbsolute = base.isAbsolute ∧
      (base.descend names).steps = base.steps ++ names := by
  induction names generalizing base with
  | nil => exact ⟨rfl, (List.append_nil _).symm⟩
  | cons name rest induction =>
      rw [List.forall_mem_cons] at ordinary
      rcases ordinary with ⟨first, others⟩
      have step : steps ⟨name⟩ = [name] := by
        rw [steps, first.pieces, movingPieces, List.filter_singleton]
        simp [first.moves]
      rcases induction others (base.join ⟨name⟩) with ⟨start, steps⟩
      rw [descend]
      constructor
      · rw [start, isAbsolute_join, first.isAbsolute, Bool.false_or]
      · rw [steps, steps_join, if_neg first.relative, step, List.append_assoc,
          List.singleton_append]

namespace Generation

open FileTree

theorem listing_of_entry? {disk : Disk} {directory : FilePath}
    {members : List (String × FileTree)}
    (looked : disk.entry? directory = some (.directory members)) :
    listing disk directory = .ok ((FileTree.directory members).files directory) :=
  listing_eq_ok_iff.mpr ⟨_, _, Disk.tree?_of_entry? looked rfl, looked, rfl⟩

/-- Below a directory, every file is listed once, in the order of places, which is the order of the
only walk through the tree; the order in which the directories list their members plays no part. -/
theorem schemaFiles_in_order {session : Session} {directory : FilePath}
    {members : List (String × FileTree)} (proper : (FileTree.directory members).IsProper)
    (stands : session.disk.entry? directory = some (.directory members)) :
    ∃ entries : List Entry,
      (∀ walk, Walk (.directory members) walk ↔ walk = entries) ∧
      session.run (schemaFiles directory) =
        (.ok ((filePlaces entries).map directory.descend), session) ∧
      (∀ place, place ∈ filePlaces entries ↔
        ∃ inner, (FileTree.directory members).at? place = some inner ∧
          inner.isDirectory = false) ∧
      ((filePlaces entries).Pairwise fun left right =>
        left.map Text.bytes < right.map Text.bytes) ∧
      (∀ place ∈ filePlaces entries,
        (directory.descend place).isAbsolute = directory.isAbsolute ∧
          (directory.descend place).steps = directory.steps ++ place) ∧
      ∀ (other : Session) (members' : List (String × FileTree)),
        other.disk.entry? directory = some (.directory members') →
          Reordered (.directory members) (.directory members') →
            other.run (schemaFiles directory) =
              (.ok ((filePlaces entries).map directory.descend), other) := by
  rcases proper.exists_walk with ⟨entries, walk⟩
  have listed {session : Session} {members : List (String × FileTree)}
      (walk : Walk (.directory members) entries)
      (stands : session.disk.entry? directory = some (.directory members)) :
      session.run (schemaFiles directory) =
        (.ok ((filePlaces entries).map directory.descend), session) := by
    rw [run_schemaFiles, listing_of_entry? stands, walk.files_eq]
  refine ⟨entries, ?_, listed walk stands, fun place => walk.mem_filePlaces_iff,
    walk.filePlaces_ascend, ?_, ?_⟩
  · intro other
    constructor
    · intro walk'
      exact walk'.unique walk
    · rintro rfl
      exact walk
  · intro place member
    rcases walk.mem_filePlaces_iff.mp member with ⟨inner, here, _⟩
    exact FilePath.steps_descend (proper.ordinary_of_at? here) directory
  · intro other members' found reordered
    exact listed (walk.of_reordered proper reordered) found

/-- A directory whose name begins that of the file beside it. -/
def nestedInputs : List (String × FileTree) :=
  [("a.yaml", .file (some "")), ("a", .directory [("b", .file none)])]

def nestedSession : Session where
  disk := { tree := .directory [("in", .directory nestedInputs)] }

theorem nestedInputs_walk :
    Walk (.directory nestedInputs)
      [⟨[], true⟩, ⟨["a"], true⟩, ⟨["a", "b"], false⟩, ⟨["a.yaml"], false⟩] := by
  have inner : Walk (.directory [("b", .file none)]) [⟨[], true⟩, ⟨["b"], false⟩] :=
    .directory (.refl _) (List.pairwise_singleton _ _) (fun _ => [⟨[], false⟩])
      (List.forall_mem_singleton.mpr (.file none))
  refine .directory (.swap _ _ _) (by decide)
    (fun member => if member.1 = "a" then [⟨[], true⟩, ⟨["b"], false⟩] else [⟨[], false⟩]) ?_
  intro member held
  rcases List.mem_pair.mp held with rfl | rfl
  · exact .file _
  · exact inner

/-- The slash comes after the point, so the paths themselves are not in ascending order. -/
theorem nestedSession_in_order :
    nestedSession.run (schemaFiles ⟨"/in"⟩) =
        (.ok [⟨"/in/a/b"⟩, ⟨"/in/a.yaml"⟩], nestedSession) ∧
      "/in/a.yaml" < "/in/a/b" := by
  have proper : (FileTree.directory nestedInputs).IsProper := by
    refine .directory (by decide) (by decide) ?_
    intro member held
    rcases List.mem_pair.mp held with rfl | rfl
    · exact .file _
    · exact .directory (by decide) (by decide) (List.forall_mem_singleton.mpr (.file none))
  have stands : nestedSession.disk.entry? ⟨"/in"⟩ = some (.directory nestedInputs) := rfl
  rcases schemaFiles_in_order proper stands with ⟨entries, walks, ran, _⟩
  cases (walks _).mp nestedInputs_walk
  exact ⟨ran, by decide⟩

end Generation

end CrdCompiler
