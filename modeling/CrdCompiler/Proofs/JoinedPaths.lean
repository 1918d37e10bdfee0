import CrdCompiler.Files.Path
import Mathlib.Data.List.Basic
import Mathlib.Data.String.Basic

/-! # Joined paths

A relative path joined to another has the pieces of the other and then its own. An ordinary name is
a path of one piece.
-/

namespace CrdCompiler

namespace FilePath

/-- A name that leads from a directory to one of its members. -/
structure IsOrdinary (name : String) : Prop where
  slashFree : '/' ∉ name.toList
  moves : ¬ staysPut name
  downward : name ≠ ".."

instance (name : String) : Decidable (IsOrdinary name) :=
  decidable_of_iff ('/' ∉ name.toList ∧ ¬ staysPut name ∧ name ≠ "..")
    ⟨fun holds => ⟨holds.1, holds.2.1, holds.2.2⟩,
      fun ordinary => ⟨ordinary.slashFree, ordinary.moves, ordinary.downward⟩⟩

theorem splitAtSlashes_slash (rest : List Char) :
    splitAtSlashes ('/' :: rest) = [] :: splitAtSlashes rest := by
  rw [splitAtSlashes, if_pos rfl]

theorem splitAtSlashes_ne_nil (characters : List Char) : splitAtSlashes characters ≠ [] := by
  cases characters with
  | nil => exact List.cons_ne_nil [] []
  | cons character rest =>
      rw [splitAtSlashes]
      split
      · exact List.cons_ne_nil _ _
      · split <;> exact List.cons_ne_nil _ _

theorem splitAtSlashes_append (left right : List Char) :
    splitAtSlashes (left ++ '/' :: right) = splitAtSlashes left ++ splitAtSlashes right := by
  induction left with
  | nil => exact splitAtSlashes_slash right
  | cons character rest induction =>
      by_cases slash : character = '/'
      · subst character
        rw [List.cons_append, splitAtSlashes_slash, splitAtSlashes_slash, induction,
          List.cons_append]
      · rw [List.cons_append, splitAtSlashes, splitAtSlashes, if_neg slash, if_neg slash, induction]
        cases pieces : splitAtSlashes rest with
        | nil => exact absurd pieces (splitAtSlashes_ne_nil rest)
        | cons first others => rfl

theorem splitAtSlashes_of_slashFree {characters : List Char} (slashFree : '/' ∉ characters) :
    splitAtSlashes characters = [characters] := by
  induction characters with
  | nil => rfl
  | cons character rest induction =>
      rcases not_or.mp (mt List.mem_cons.mpr slashFree) with ⟨different, others⟩
      rw [splitAtSlashes, if_neg (Ne.symm different), induction others]

theorem IsOrdinary.isAbsolute {name : String} (ordinary : IsOrdinary name) :
    isAbsolute ⟨name⟩ = false := by
  apply decide_eq_false
  intro first
  exact ordinary.slashFree (List.mem_of_mem_head? first)

theorem IsOrdinary.pieces {name : String} (ordinary : IsOrdinary name) :
    pieces ⟨name⟩ = [name] := by
  rw [FilePath.pieces, splitAtSlashes_of_slashFree ordinary.slashFree, List.map_singleton,
    String.ofList_toList]

theorem pieces_slash {path : FilePath} {left right : List Char}
    (text : path.text.toList = left ++ '/' :: right) :
    path.pieces = (splitAtSlashes left).map String.ofList ++
      (splitAtSlashes right).map String.ofList := by
  rw [pieces, text, splitAtSlashes_append, List.map_append]

theorem isAbsolute_of_append {joined base : FilePath} {rest : List Char}
    (text : joined.text.toList = base.text.toList ++ rest) (inhabited : base.text.toList ≠ []) :
    joined.isAbsolute = base.isAbsolute := by
  rw [isAbsolute, isAbsolute, text, List.head?_append_of_ne_nil _ inhabited]

theorem pieces_ne_nil (path : FilePath) : path.pieces ≠ [] :=
  mt List.map_eq_nil_iff.mp (splitAtSlashes_ne_nil _)

@[simp] theorem join_empty (path : FilePath) : join ⟨""⟩ path = path := by
  simp [join]

/-- The pieces of a relative path come behind those of the other, of which an empty one at the end
goes away. -/
theorem pieces_join (base : FilePath) {path : FilePath} (relative : ¬ path.isAbsolute) :
    (base.join path).isAbsolute = base.isAbsolute ∧
      ∃ front, (base.join path).pieces = front ++ path.pieces ∧
        (base.pieces = front ∨ base.pieces = front ++ [""]) := by
  by_cases empty : base.text = ""
  · have nowhere : base = ⟨""⟩ := congrArg FilePath.mk empty
    rw [nowhere, join_empty, eq_false_of_ne_true relative]
    exact ⟨rfl, [], rfl, .inr rfl⟩
  have inhabited : base.text.toList ≠ [] := mt String.toList_eq_nil_iff.mp empty
  by_cases slashed : base.text.toList.getLast? = some '/'
  · rcases List.getLast?_eq_some_iff.mp slashed with ⟨front, text⟩
    have joinedText : (base.join path).text.toList = base.text.toList ++ path.text.toList := by
      simp [join, relative, text]
    refine ⟨isAbsolute_of_append joinedText inhabited, _, ?_, .inr (pieces_slash text)⟩
    apply pieces_slash
    rw [joinedText, text, List.append_assoc]
    rfl
  · have joinedText : (base.join path).text.toList =
        base.text.toList ++ '/' :: path.text.toList := by
      simp [join, relative, slashed, empty]
    exact ⟨isAbsolute_of_append joinedText inhabited, _, pieces_slash joinedText, .inl rfl⟩

end FilePath

end CrdCompiler
