import CrdCompiler.Files.Tree
import CrdCompiler.Proofs.NamedMembers
import Mathlib.Data.List.Induction
import Mathlib.Logic.Function.Basic

/-! # Standings

What a tree of files is, place by place: a place is a chain of names from the root, and a file, a
directory, a link or nothing stands there. A file or an empty directory that is put in a directory
where no directory was changes what stands at its own place and nowhere else.
-/

namespace CrdCompiler

namespace Standing

def contents? : Standing → Option (Option String)
  | .file text => some text
  | _ => none

def target? : Standing → Option FilePath
  | .link target => some target
  | _ => none

theorem target?_eq_some_iff {standing : Standing} {target : FilePath} :
    standing.target? = some target ↔ standing = .link target := by
  cases standing <;> simp [target?]

end Standing

namespace FileTree

variable {tree inner placed : FileTree} {place rest : List String} {name : String}

def contents (tree : FileTree) (place : List String) : Option (Option String) :=
  (tree.standing? place).bind Standing.contents?

def links (tree : FileTree) (place : List String) : Option FilePath :=
  (tree.standing? place).bind Standing.target?

theorem links_eq_some_iff {target : FilePath} :
    tree.links place = some target ↔ tree.standing? place = some (.link target) := by
  simp [links, Option.bind_eq_some_iff, Standing.target?_eq_some_iff]

@[simp] theorem standing?_nil (tree : FileTree) : tree.standing? [] = some tree.standing := by
  rw [standing?, at?, Option.map_some]

@[simp] theorem standing?_file_cons (text : Option String) (name : String) (rest : List String) :
    (file text).standing? (name :: rest) = none := rfl

@[simp] theorem standing?_link_cons (target : FilePath) (name : String) (rest : List String) :
    (link target).standing? (name :: rest) = none := rfl

@[simp] theorem standing?_directory_cons (members : List (String × FileTree)) (name : String)
    (rest : List String) :
    (directory members).standing? (name :: rest) =
      (members.lookup name).bind fun tree => tree.standing? rest := by
  unfold standing?
  rw [at?]
  cases members.lookup name <;> rfl

theorem standing_eq_directory_iff :
    tree.standing = .directory ↔ ∃ members, tree = .directory members := by
  cases tree <;> simp [standing]

theorem standing?_eq_directory_iff :
    tree.standing? place = some .directory ↔
      ∃ members, tree.at? place = some (.directory members) := by
  rw [standing?, Option.map_eq_some_iff]
  constructor
  · intro holds
    rcases holds with ⟨inner, stands, directory⟩
    rcases standing_eq_directory_iff.mp directory with ⟨members, rfl⟩
    exact ⟨members, stands⟩
  · intro holds
    rcases holds with ⟨members, stands⟩
    exact ⟨_, stands, rfl⟩

theorem standing?_of_at? (stands : tree.at? place = some inner) :
    tree.standing? place = some inner.standing := by
  rw [standing?, stands, Option.map_some]

theorem contents_eq_some_iff {text : Option String} :
    tree.contents place = some text ↔ tree.at? place = some (.file text) := by
  rw [contents, standing?]
  cases tree.at? place with
  | none => simp
  | some inner => cases inner <;> simp [standing, Standing.contents?]

theorem at?_append (tree : FileTree) (place rest : List String) :
    tree.at? (place ++ rest) = (tree.at? place).bind fun inner => inner.at? rest := by
  induction place generalizing tree with
  | nil => rw [List.nil_append, at?, Option.bind_some]
  | cons name below induction =>
      cases tree with
      | file text => rfl
      | link target => rfl
      | directory members =>
          rw [List.cons_append, at?, at?, Option.bind_assoc]
          exact congrArg _ (funext induction)

theorem at?_singleton (members : List (String × FileTree)) (name : String) :
    (directory members).at? [name] = members.lookup name := by
  rw [at?]
  cases members.lookup name with
  | none => rfl
  | some inner => rw [Option.bind_some, at?]

theorem standing?_around (stands : (tree.standing? (place ++ [name])).isSome) :
    tree.standing? place = some .directory := by
  rw [standing?, at?_append, Option.isSome_map] at stands
  cases around : tree.at? place with
  | none => simp [around] at stands
  | some inner =>
      rw [around, Option.bind_some] at stands
      cases inner with
      | file text => cases stands
      | link target => cases stands
      | directory members => exact standing?_of_at? around

theorem standing?_dropLast (directory : tree.standing? place = some .directory) :
    tree.standing? place.dropLast = some .directory := by
  cases place using List.reverseRecOn with
  | nil => exact directory
  | append_singleton around name =>
      rw [List.dropLast_concat]
      exact standing?_around (Option.isSome_of_eq_some directory)

theorem standing?_of_prefix {front : List String} (before : front <+: place)
    (directory : tree.standing? place = some .directory) :
    tree.standing? front = some .directory := by
  rcases before with ⟨rest, rfl⟩
  induction rest using List.reverseRecOn with
  | nil => rwa [List.append_nil] at directory
  | append_singleton rest name induction =>
      rw [← List.append_assoc] at directory
      exact induction (standing?_around (Option.isSome_of_eq_some directory))

def IsLeaf (tree : FileTree) : Prop :=
  ∀ name rest, tree.standing? (name :: rest) = none

theorem isLeaf_file (text : Option String) : (file text).IsLeaf :=
  standing?_file_cons text

theorem isLeaf_empty : (directory []).IsLeaf := by
  intro name rest
  rw [standing?_directory_cons, List.lookup_nil, Option.bind_none]

theorem isLeaf_of_standing_ne (plain : tree.standing ≠ .directory) : tree.IsLeaf := by
  cases tree with
  | file text => exact isLeaf_file text
  | link target => exact standing?_link_cons target
  | directory members => exact absurd rfl plain

theorem standing?_putMember {members : List (String × FileTree)} (leaf : placed.IsLeaf)
    (displaced : ∀ held ∈ members.lookup name, held.IsLeaf) (other : List String) :
    (directory (putMember members name placed)).standing? other =
      if other = [name] then some placed.standing else (directory members).standing? other := by
  cases other with
  | nil => rfl
  | cons first rest =>
      rw [standing?_directory_cons, standing?_directory_cons, lookup_putMember]
      by_cases same : first = name
      · subst first
        cases rest with
        | nil => simp
        | cons second further =>
            have absent : (members.lookup name).bind
                (fun held => held.standing? (second :: further)) = none := by
              rw [Option.bind_eq_none_iff]
              intro held found
              exact displaced held found second further
            simp [absent, leaf second further]
      · simp [same]

/-- What is put in a directory, where no directory is, stands at its own place; elsewhere everything
stands as before. -/
theorem standing?_put (stands : tree.standing? place = some .directory) (leaf : placed.IsLeaf)
    (free : tree.standing? (place ++ [name]) ≠ some .directory) :
    (tree.put (place ++ [name]) placed).standing? =
      Function.update tree.standing? (place ++ [name]) (some placed.standing) := by
  funext other
  rw [Function.update_apply]
  -- Along the place, the tree that is put and the place that is asked for go down together.
  induction place generalizing tree other with
  | nil =>
      rcases standing?_eq_directory_iff.mp stands with ⟨members, here⟩
      cases here
      apply standing?_putMember leaf
      intro held found
      apply isLeaf_of_standing_ne
      intro directory
      apply free
      rw [List.nil_append, standing?_directory_cons, found, Option.bind_some, standing?_nil,
        directory]
  | cons down below induction =>
      cases tree with
      | file text => cases stands
      | link target => cases stands
      | directory inner =>
          rw [standing?_directory_cons] at stands
          rcases Option.bind_eq_some_iff.mp stands with ⟨deeper, found, standsBelow⟩
          have freeBelow : deeper.standing? (below ++ [name]) ≠ some .directory := by
            rwa [List.cons_append, standing?_directory_cons, found, Option.bind_some] at free
          rw [List.cons_append, put, found, Option.getD_some]
          cases other with
          | nil => rfl
          | cons first rest =>
              rw [standing?_directory_cons, standing?_directory_cons, lookup_putMember]
              by_cases same : first = down
              · subst first
                simp [found, induction standsBelow freeBelow rest]
              · simp [same]

end FileTree

end CrdCompiler
