import CrdCompiler.Proofs.JoinedPaths

/-! # Components of paths

Two paths are alike when they have the same components: pieces that lead nowhere make no difference
between them, except for a dot at the beginning of a relative path. Joining paths puts their steps
one after the other, and the parent of a path has all its steps but the last.
-/

namespace CrdCompiler

namespace FilePath

/-- The pieces that lead somewhere. -/
def movingPieces (pieces : List String) : List String :=
  pieces.filter (!staysPut ·)

def steps (path : FilePath) : List String :=
  movingPieces path.pieces

/-- The root or a leading dot, and the steps from there. -/
def components (path : FilePath) : List String :=
  (if path.isAbsolute then ["/"] else if path.pieces.head? = some "." then ["."] else []) ++
    path.steps

/-- The paths are the same, component by component. -/
def Alike (left right : FilePath) : Prop :=
  left.components = right.components

instance (left right : FilePath) : Decidable (left.Alike right) :=
  inferInstanceAs (Decidable (left.components = right.components))

example : Alike ⟨"/etc//provider/./schemas/"⟩ ⟨"/etc/provider/schemas"⟩ := by decide

example : ¬ Alike ⟨"./schemas"⟩ ⟨"schemas"⟩ := by decide

theorem Alike.of_steps {left right : FilePath} (leftAbsolute : left.isAbsolute)
    (rightAbsolute : right.isAbsolute) (steps : left.steps = right.steps) : left.Alike right := by
  rw [Alike, components, components, if_pos leftAbsolute, if_pos rightAbsolute, steps]

@[simp] theorem movingPieces_append (left right : List String) :
    movingPieces (left ++ right) = movingPieces left ++ movingPieces right :=
  List.filter_append left right

theorem movingPieces_reverse (pieces : List String) :
    movingPieces pieces.reverse = (movingPieces pieces).reverse :=
  List.filter_reverse

/-! ## Joined paths -/

theorem isAbsolute_join (base path : FilePath) :
    (base.join path).isAbsolute = (path.isAbsolute || base.isAbsolute) := by
  by_cases absolute : path.isAbsolute
  · rw [join, if_pos absolute, absolute, Bool.true_or]
  rw [eq_false_of_ne_true absolute, Bool.false_or, (pieces_join base absolute).1]

theorem isAbsolute_join_of_base {base : FilePath} (absolute : base.isAbsolute) (path : FilePath) :
    (base.join path).isAbsolute := by
  rw [isAbsolute_join, absolute, Bool.or_true]

theorem steps_join (base path : FilePath) :
    (base.join path).steps = if path.isAbsolute then path.steps else base.steps ++ path.steps := by
  by_cases absolute : path.isAbsolute
  · rw [join, if_pos absolute, if_pos absolute]
  rw [if_neg absolute]
  rcases (pieces_join base absolute).2 with ⟨front, parts, before⟩
  have same : movingPieces base.pieces = movingPieces front := by
    rcases before with before | before
    · rw [before]
    · -- The empty piece behind the last slash of the base is no step.
      have behind : movingPieces [""] = [] := rfl
      rw [before, movingPieces_append, behind, List.append_nil]
  rw [steps, steps, steps, parts, movingPieces_append, same]

theorem steps_join_ne_nil (base : FilePath) {path : FilePath} (moves : path.steps ≠ []) :
    (base.join path).steps ≠ [] := by
  rw [steps_join]
  split
  · exact moves
  · exact List.append_ne_nil_of_right_ne_nil _ moves

/-- Joined to alike directories, a path leads to alike places. -/
theorem join_alike {left right : FilePath} (path : FilePath) (leftAbsolute : left.isAbsolute)
    (rightAbsolute : right.isAbsolute) (steps : left.steps = right.steps) :
    (left.join path).Alike (right.join path) := by
  apply Alike.of_steps (isAbsolute_join_of_base leftAbsolute path)
    (isAbsolute_join_of_base rightAbsolute path)
  rw [steps_join, steps_join, steps]

/-! ## Paths of pieces -/

theorem slashFree_of_mem_splitAtSlashes {characters piece : List Char}
    (member : piece ∈ splitAtSlashes characters) : '/' ∉ piece := by
  induction characters generalizing piece with
  | nil =>
      cases List.mem_singleton.mp member
      exact List.not_mem_nil
  | cons character rest induction =>
      rw [splitAtSlashes] at member
      split at member
      · rcases List.mem_cons.mp member with rfl | further
        · exact List.not_mem_nil
        · exact induction further
      · rename_i different
        split at member
        · rename_i none
          exact absurd none (splitAtSlashes_ne_nil rest)
        · rename_i first others parts
          rw [parts, List.forall_mem_cons] at induction
          rcases List.mem_cons.mp member with rfl | further
          · exact List.not_mem_cons_of_ne_of_not_mem (Ne.symm different) induction.1
          · exact induction.2 piece further

theorem slashFree_of_mem_pieces {path : FilePath} {piece : String} (member : piece ∈ path.pieces) :
    '/' ∉ piece.toList := by
  rcases List.mem_map.mp member with ⟨characters, part, rfl⟩
  rw [String.toList_ofList]
  exact slashFree_of_mem_splitAtSlashes part

theorem pieces_ofPieces {parts : List String} (inhabited : parts ≠ [])
    (slashFree : ∀ piece ∈ parts, '/' ∉ piece.toList) : (ofPieces parts).pieces = parts := by
  induction parts with
  | nil => exact absurd rfl inhabited
  | cons first rest induction =>
      rcases List.forall_mem_cons.mp slashFree with ⟨firstFree, restFree⟩
      have alone : (splitAtSlashes first.toList).map String.ofList = [first] := by
        rw [splitAtSlashes_of_slashFree firstFree, List.map_singleton, String.ofList_toList]
      cases rest with
      | nil => exact alone
      | cons second others =>
          have further := induction (List.cons_ne_nil _ _) restFree
          have text : (ofPieces (first :: second :: others)).text.toList =
              first.toList ++ '/' :: (ofPieces (second :: others)).text.toList := by
            simp [ofPieces]
          rw [pieces_slash text, alone]
          exact congrArg _ further

theorem isAbsolute_iff {path : FilePath} :
    path.isAbsolute ↔ ∃ first rest, path.pieces = "" :: first :: rest := by
  rw [isAbsolute, decide_eq_true_iff, pieces]
  constructor
  · intro first
    rcases List.head?_eq_some_iff.mp first with ⟨others, text⟩
    rw [text, splitAtSlashes_slash]
    cases parts : splitAtSlashes others with
    | nil => exact absurd parts (splitAtSlashes_ne_nil others)
    | cons second rest => exact ⟨_, _, rfl⟩
  · intro holds
    rcases holds with ⟨first, rest, parts⟩
    cases text : path.text.toList with
    | nil =>
        rw [text] at parts
        cases parts
    | cons character others =>
        by_cases slash : character = '/'
        · rw [slash, List.head?_cons]
        · -- The first piece has the first character in it, unless this is a slash.
          rw [text, splitAtSlashes, if_neg slash] at parts
          split at parts <;> simp at parts

theorem steps_ofPieces {parts : List String} (slashFree : ∀ piece ∈ parts, '/' ∉ piece.toList) :
    (ofPieces parts).steps = movingPieces parts := by
  by_cases inhabited : parts = []
  · rw [inhabited]
    rfl
  · rw [steps, pieces_ofPieces inhabited slashFree]

theorem slashFree_of_front {path : FilePath} {parts : List String} (front : parts <+: path.pieces) :
    ∀ piece ∈ parts, '/' ∉ piece.toList :=
  fun _ member => slashFree_of_mem_pieces (front.subset member)

theorem isAbsolute_ofPieces {path : FilePath} {parts : List String}
    (relative : ¬ path.isAbsolute) (front : parts <+: path.pieces) :
    (ofPieces parts).isAbsolute = path.isAbsolute := by
  rw [eq_false_of_ne_true relative]
  apply eq_false_of_ne_true
  intro absolute
  by_cases inhabited : parts = []
  · rw [inhabited] at absolute
    cases absolute
  · rcases isAbsolute_iff.mp absolute with ⟨second, others, same⟩
    rw [pieces_ofPieces inhabited (slashFree_of_front front)] at same
    rcases front with ⟨behind, whole⟩
    rw [same] at whole
    exact relative (isAbsolute_iff.mpr ⟨second, others ++ behind, whole.symm⟩)

/-! ## Parents -/

theorem movingPieces_dropWhile (pieces : List String) :
    movingPieces (pieces.dropWhile staysPut) = movingPieces pieces := by
  induction pieces with
  | nil => rfl
  | cons piece rest induction =>
      by_cases stays : staysPut piece
      · rw [List.dropWhile_cons_of_pos stays, induction, movingPieces, movingPieces,
          List.filter_cons_of_neg (by simp [stays])]
      · rw [List.dropWhile_cons_of_neg stays]

theorem exists_piecesBeforeLast {pieces : List String} (moves : movingPieces pieces ≠ []) :
    ∃ before, piecesBeforeLast? pieces = some before := by
  rw [piecesBeforeLast?]
  split
  · rename_i reversed
    apply absurd _ moves
    rw [← List.reverse_eq_nil_iff, ← movingPieces_reverse, ← movingPieces_dropWhile, reversed]
    rfl
  · exact ⟨_, rfl⟩

theorem piecesBeforeLast?_eq_some {pieces before : List String}
    (found : piecesBeforeLast? pieces = some before) :
    before <+: pieces ∧ movingPieces before = (movingPieces pieces).dropLast := by
  rw [piecesBeforeLast?] at found
  split at found
  · cases found
  rename_i last rest reversed
  cases found
  have moves : staysPut last = false := by
    have first := List.head?_dropWhile_not staysPut pieces.reverse
    simpa [reversed] using first
  constructor
  · have behind : rest <:+ pieces.reverse :=
      ((List.suffix_cons last rest).trans (reversed ▸ List.dropWhile_suffix staysPut))
    rw [← List.reverse_suffix, List.reverse_reverse]
    exact (List.dropWhile_suffix staysPut).trans behind
  · have steps : (movingPieces pieces).reverse = last :: movingPieces rest := by
      rw [← movingPieces_reverse, ← movingPieces_dropWhile, reversed, movingPieces,
        List.filter_cons_of_pos (by simp [moves])]
      rfl
    rw [movingPieces_reverse, movingPieces_dropWhile, ← List.reverse_eq_iff.mpr steps.symm]
    simp

theorem pieces_rooted (path : FilePath) : pieces ⟨"/" ++ path.text⟩ = "" :: path.pieces := by
  have text : ("/" ++ path.text).toList = [] ++ '/' :: path.text.toList := by simp
  exact pieces_slash text

theorem rooted_eq (path : FilePath) :
    isAbsolute ⟨"/" ++ path.text⟩ ∧ steps ⟨"/" ++ path.text⟩ = path.steps := by
  constructor
  · simp [isAbsolute]
  · rw [steps, pieces_rooted]
    rfl

theorem exists_parent {path : FilePath} (moves : path.steps ≠ []) :
    ∃ directory, path.parent? = some directory := by
  rw [steps] at moves
  unfold parent?
  split
  · rename_i first rest parts
    rw [parts] at moves
    have inner : movingPieces (first :: rest) ≠ [] := moves
    rcases exists_piecesBeforeLast inner with ⟨before, found⟩
    rw [found]
    exact ⟨_, rfl⟩
  · split <;> exact ⟨_, rfl⟩
  · rcases exists_piecesBeforeLast moves with ⟨before, found⟩
    rw [found]
    exact ⟨_, rfl⟩

theorem parent?_eq_some {path directory : FilePath} (found : path.parent? = some directory) :
    directory.isAbsolute = path.isAbsolute ∧ directory.steps = path.steps.dropLast := by
  have relative {before : List String} (unrooted : ∀ first rest, path.pieces ≠ "" :: first :: rest)
      (front : before <+: path.pieces) (moving : movingPieces before = path.steps.dropLast) :
      (ofPieces before).isAbsolute = path.isAbsolute ∧
        (ofPieces before).steps = path.steps.dropLast := by
    have relative : ¬ path.isAbsolute := by
      intro absolute
      rcases isAbsolute_iff.mp absolute with ⟨first, rest, parts⟩
      exact unrooted first rest parts
    exact ⟨isAbsolute_ofPieces relative front,
      (steps_ofPieces (slashFree_of_front front)).trans moving⟩
  unfold parent? at found
  split at found
  · rename_i first rest parts
    rcases Option.map_eq_some_iff.mp found with ⟨before, split, rfl⟩
    rcases piecesBeforeLast?_eq_some split with ⟨front, moving⟩
    have absolute : path.isAbsolute := isAbsolute_iff.mpr ⟨first, rest, parts⟩
    have slashFree : ∀ piece ∈ before, '/' ∉ piece.toList := by
      intro piece member
      have inside : piece ∈ path.pieces := parts ▸ List.mem_cons_of_mem _ (front.subset member)
      exact slashFree_of_mem_pieces inside
    rcases rooted_eq (ofPieces before) with ⟨rooted, same⟩
    rw [same, steps_ofPieces slashFree, moving, steps, parts]
    exact ⟨rooted.trans absolute.symm, rfl⟩
  · rename_i rest parts
    have unrooted : ∀ first others, path.pieces ≠ "" :: first :: others := by simp [parts]
    have same : path.steps = movingPieces rest := by
      rw [steps, parts]
      rfl
    split at found
    · rename_i split
      cases found
      apply relative unrooted (List.nil_prefix (l := path.pieces))
      have still : movingPieces rest = [] := by
        by_contra moves
        rcases exists_piecesBeforeLast moves with ⟨before, found⟩
        cases split.symm.trans found
      rw [same, still]
      rfl
    · rename_i before split
      cases found
      rcases piecesBeforeLast?_eq_some split with ⟨front, moving⟩
      apply relative unrooted
      · rw [parts]
        exact List.cons_prefix_cons.mpr ⟨rfl, front⟩
      · rw [same]
        exact moving
  · rename_i unrooted _
    rcases Option.map_eq_some_iff.mp found with ⟨before, split, rfl⟩
    rcases piecesBeforeLast?_eq_some split with ⟨front, moving⟩
    exact relative unrooted front moving

end FilePath

end CrdCompiler
