import CrdCompiler.Files.Disk
import CrdCompiler.Proofs.Places
import CrdCompiler.Proofs.StableOrder
import Mathlib.Data.String.Basic
import Mathlib.Logic.Relation

/-! # Changes to a tree of files

A run changes a tree in two ways: a directory is made where nothing is, or a file is put where a
file or nothing is. Directories stay, links stay as they are, files stay files, contents change where
files are put, and the files below a directory are listed as before unless one is put there.
-/

namespace CrdCompiler

namespace FileTree

def isDirectory : FileTree → Bool
  | .directory _ => true
  | .file _ | .link _ => false

/-! ## Listings -/

theorem memberFiles_eq_map (path : FilePath) (members : List (String × FileTree)) :
    memberFiles path members =
      members.map fun member => (member.1, member.2.files (path.join ⟨member.1⟩)) := by
  induction members with
  | nil => rfl
  | cons member rest induction => rw [memberFiles, induction, List.map_cons]

theorem files_directory (path : FilePath) (members : List (String × FileTree)) :
    (directory members).files path =
      (((memberFiles path members).filter (!·.2.isEmpty)).mergeSort
        fun left right => left.1 ≤ right.1).flatMap (·.2) := by
  have order : IsTotalPreorder fun left right : String × List FilePath =>
      decide (left.1 ≤ right.1) := isTotalPreorder_of_key Prod.fst
  rw [files, order.mergeSort_filter]
  generalize (memberFiles path members).mergeSort _ = listed
  induction listed with
  | nil => rfl
  | cons member rest induction =>
      rcases member with ⟨name, files⟩
      cases files with
      | nil => exact induction
      | cons first others =>
          rw [List.filter_cons_of_pos rfl, List.flatMap_cons, List.flatMap_cons, induction]

theorem memberFiles_putMember {members : List (String × FileTree)} {name : String}
    {held placed : FileTree} (found : members.lookup name = some held) {path : FilePath}
    (same : placed.files (path.join ⟨name⟩) = held.files (path.join ⟨name⟩)) :
    memberFiles path (putMember members name placed) = memberFiles path members := by
  induction members with
  | nil => cases found
  | cons member rest induction =>
      rcases member with ⟨first, tree⟩
      rw [lookup_cons_eq_ite] at found
      by_cases taken : first = name
      · subst first
        cases Option.some.inj ((if_pos rfl).symm.trans found)
        rw [putMember, if_pos rfl, memberFiles, memberFiles, same]
      · rw [if_neg (Ne.symm taken)] at found
        rw [putMember, if_neg taken, memberFiles, memberFiles, induction found]

theorem files_put_empty {tree : FileTree} {place : List String}
    {members : List (String × FileTree)} {name : String}
    (stands : tree.at? place = some (.directory members)) (absent : members.lookup name = none)
    (path : FilePath) :
    (tree.put (place ++ [name]) (.directory [])).files path = tree.files path := by
  induction place generalizing tree path with
  | nil =>
      rw [at?] at stands
      cases stands
      have fresh : name ∉ members.map Prod.fst := by
        intro member
        rcases List.mem_map.mp member with ⟨entry, held, rfl⟩
        simpa using List.lookup_eq_none_iff.mp absent entry held
      rw [List.nil_append, put, absent, Option.getD_none, put, putMember_of_notMem fresh,
        files_directory, files_directory, memberFiles_eq_map, memberFiles_eq_map, List.map_append,
        List.filter_append]
      simp [files, memberFiles]
  | cons down below induction =>
      cases tree with
      | file text => cases stands
      | link target => cases stands
      | directory inner =>
          rcases Option.bind_eq_some_iff.mp stands with ⟨deeper, found, standsBelow⟩
          rw [List.cons_append, put, found, Option.getD_some, files, files,
            memberFiles_putMember found (induction standsBelow _)]

/-! ## One change -/

variable {tree tree' inner placed : FileTree} {place other : List String} {name : String}
  {allowed : List String → Prop}

/-- Where something is put, other trees are listed as before; so is a tree around it, if it is an
empty directory where nothing was. -/
theorem files_put (placed : FileTree) (stands : tree.standing? place = some .directory)
    (free : tree.standing? (place ++ [name]) ≠ some .directory)
    (found : tree.at? other = some inner) :
    ∃ inner', (tree.put (place ++ [name]) placed).at? other = some inner' ∧
      ((other <+: place ++ [name] →
          placed = .directory [] ∧ tree.standing? (place ++ [name]) = none) →
        ∀ path, inner'.files path = inner.files path) := by
  induction other generalizing tree place with
  | nil =>
      rw [at?] at found
      cases found
      refine ⟨_, at?.eq_1 _, ?_⟩
      intro around path
      rcases around List.nil_prefix with ⟨rfl, absent⟩
      rcases standing?_eq_directory_iff.mp stands with ⟨members, here⟩
      apply files_put_empty here
      rwa [standing?, at?_append, here, Option.map_eq_none_iff, Option.bind_some, at?_singleton]
        at absent
  | cons first rest induction =>
      cases tree with
      | file text => cases found
      | link target => cases found
      | directory outer =>
          rcases Option.bind_eq_some_iff.mp found with ⟨deeper, here, foundBelow⟩
          cases place with
          | nil =>
              rw [List.nil_append, standing?_directory_cons] at free
              rw [List.nil_append, put, at?, lookup_putMember]
              by_cases same : first = name
              · subst first
                rw [here, Option.bind_some, standing?_nil] at free
                rw [if_pos rfl, Option.bind_some, put]
                cases rest with
                | nil =>
                    refine ⟨placed, at?.eq_1 _, ?_⟩
                    intro around
                    simp [here] at around
                | cons second further =>
                    cases deeper with
                    | file text => cases foundBelow
                    | link target => cases foundBelow
                    | directory inside => exact absurd rfl free
              · rw [if_neg same, here]
                exact ⟨inner, foundBelow, fun _ _ => rfl⟩
          | cons down below =>
              rw [standing?_directory_cons] at stands
              rcases Option.bind_eq_some_iff.mp stands with ⟨onWay, there, standsBelow⟩
              rw [List.cons_append, standing?_directory_cons, there, Option.bind_some] at free
              rw [List.cons_append, put, at?, lookup_putMember]
              by_cases same : first = down
              · subst first
                cases here.symm.trans there
                rw [if_pos rfl, here, Option.getD_some, Option.bind_some, List.cons_prefix_cons,
                  standing?_directory_cons, here, Option.bind_some]
                simpa using induction standsBelow free foundBelow
              · rw [if_neg same, here]
                exact ⟨inner, foundBelow, fun _ _ => rfl⟩

/-- A directory is made where nothing is, or a file is put at an allowed place where a file or
nothing is. -/
inductive Change (allowed : List String → Prop) (tree : FileTree) : FileTree → Prop where
  | directory {place : List String} {name : String}
      (stands : tree.standing? place = some .directory)
      (absent : tree.standing? (place ++ [name]) = none) :
      Change allowed tree (tree.put (place ++ [name]) (.directory []))
  | file {place : List String} {name : String} {text : Option String}
      (stands : tree.standing? place = some .directory)
      (free : ∀ standing ∈ tree.standing? (place ++ [name]), ∃ old, standing = .file old)
      (permitted : allowed (place ++ [name])) :
      Change allowed tree (tree.put (place ++ [name]) (.file text))

theorem ne_directory_of_free
    (free : ∀ standing ∈ tree.standing? place, ∃ old, standing = .file old) :
    tree.standing? place ≠ some .directory := by
  intro directory
  rcases free _ directory with ⟨old, impossible⟩
  cases impossible

inductive Becomes (permitted : Prop) : Option Standing → Option Standing → Prop where
  | same (standing : Option Standing) : Becomes permitted standing standing
  | made : Becomes permitted none (some .directory)
  | new (allowed : permitted) (text : Option String) : Becomes permitted none (some (.file text))
  | rewritten (allowed : permitted) (old text : Option String) :
      Becomes permitted (some (.file old)) (some (.file text))

theorem Change.becomes (change : Change allowed tree tree') (place : List String) :
    Becomes (allowed place) (tree.standing? place) (tree'.standing? place) := by
  cases change with
  | @directory around name stands absent =>
      rw [standing?_put stands isLeaf_empty (by simp [absent]), Function.update_apply]
      split
      · subst place
        rw [absent]
        exact .made
      · exact .same _
  | @file around name text stands free permitted =>
      rw [standing?_put stands (isLeaf_file text) (ne_directory_of_free free), Function.update_apply]
      split
      · subst place
        cases here : tree.standing? (around ++ [name]) with
        | none => exact .new permitted text
        | some standing =>
            rcases free standing here with ⟨old, rfl⟩
            exact .rewritten permitted old text
      · exact .same _

theorem Change.files (change : Change allowed tree tree') (found : tree.at? place = some inner) :
    ∃ inner', tree'.at? place = some inner' ∧
      ((∀ target, allowed target → ¬ place <+: target) →
        ∀ path, inner'.files path = inner.files path) := by
  cases change with
  | @directory around name stands absent =>
      have plain : tree.standing? (around ++ [name]) ≠ some .directory := by simp [absent]
      rcases files_put (.directory []) stands plain found with ⟨inner', found', same⟩
      exact ⟨inner', found', fun _ => same fun _ => ⟨rfl, absent⟩⟩
  | @file around name text stands free permitted =>
      rcases files_put (.file text) stands (ne_directory_of_free free) found with
        ⟨inner', found', same⟩
      exact ⟨inner', found', fun apart => same fun inside => absurd inside (apart _ permitted)⟩

/-! ## Runs of changes -/

abbrev Changes (allowed : List String → Prop) : FileTree → FileTree → Prop :=
  Relation.ReflTransGen (Change allowed)

theorem Becomes.trans {permitted : Prop} {before between after : Option Standing}
    (first : Becomes permitted before between) (second : Becomes permitted between after) :
    Becomes permitted before after := by
  cases first with
  | same => exact second
  | made =>
      cases second
      exact .made
  | new allowed text =>
      cases second with
      | same => exact .new allowed text
      | rewritten allowed old text => exact .new allowed text
  | rewritten allowed old text =>
      cases second with
      | same => exact .rewritten allowed old text
      | rewritten allowed between text => exact .rewritten allowed old text

theorem Becomes.kind {permitted : Prop} {before after : Standing}
    (becomes : Becomes permitted (some before) (some after)) :
    (after = .directory ↔ before = .directory) ∧ after.target? = before.target? := by
  cases becomes with
  | same => exact ⟨.rfl, rfl⟩
  | rewritten => exact ⟨by simp, rfl⟩

namespace Changes

theorem becomes (changes : Changes allowed tree tree') (place : List String) :
    Becomes (allowed place) (tree.standing? place) (tree'.standing? place) := by
  induction changes with
  | refl => exact .same _
  | tail _ change induction => exact induction.trans (change.becomes place)

theorem files (changes : Changes allowed tree tree') (found : tree.at? place = some inner) :
    ∃ inner', tree'.at? place = some inner' ∧
      ((∀ target, allowed target → ¬ place <+: target) →
        ∀ path, inner'.files path = inner.files path) := by
  induction changes with
  | refl => exact ⟨inner, found, fun _ _ => rfl⟩
  | tail _ change induction =>
      rcases induction with ⟨between, stands, first⟩
      rcases change.files stands with ⟨inner', stands', second⟩
      exact ⟨inner', stands', fun apart path => (second apart path).trans (first apart path)⟩

theorem keeps (changes : Changes allowed tree tree') :
    Route.Keeps tree.standing? tree'.standing? where
  directory place stands := by
    have becomes := changes.becomes place
    generalize tree'.standing? place = after at becomes
    rw [stands] at becomes
    cases becomes
    rfl
  standing place stands := by
    have becomes := changes.becomes place
    generalize tree.standing? place = before at becomes stands
    generalize tree'.standing? place = after at becomes
    cases becomes with
    | same => exact stands
    | made | new | rewritten => rfl
  links place target := by
    have becomes := changes.becomes place
    generalize tree.standing? place = before at becomes
    generalize tree'.standing? place = after at becomes
    cases becomes with
    | same => rfl
    | made | new | rewritten => simp

theorem links (changes : Changes allowed tree tree') : tree'.links = tree.links := by
  funext place
  ext target
  rw [links_eq_some_iff, links_eq_some_iff, changes.keeps.links]

theorem contents (changes : Changes allowed tree tree') (kept : ¬ allowed place) :
    tree'.contents place = tree.contents place := by
  have becomes := changes.becomes place
  rw [FileTree.contents, FileTree.contents]
  generalize tree.standing? place = before at becomes
  generalize tree'.standing? place = after at becomes
  cases becomes with
  | same | made => rfl
  | new permitted | rewritten permitted => exact absurd permitted kept

theorem file (changes : Changes allowed tree tree') (stands : (tree.contents place).isSome) :
    (tree'.contents place).isSome := by
  have becomes := changes.becomes place
  rw [FileTree.contents] at stands ⊢
  generalize tree.standing? place = before at becomes stands
  generalize tree'.standing? place = after at becomes
  cases becomes with
  | same => exact stands
  | made | new => cases stands
  | rewritten => rfl

end Changes

end FileTree

end CrdCompiler
