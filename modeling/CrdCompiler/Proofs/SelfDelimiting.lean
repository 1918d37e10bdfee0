import Mathlib.Data.List.Basic

/-! # Writings that show where they end

What is written one after the other can be told apart when each writing shows where it ends: by a
mark that is not in it, or by its own form.
-/

namespace CrdCompiler

/-! ## Parted by a mark -/

section Parted

variable {α : Type} {mark : α} {left right leftRest rightRest : List α}

theorem eq_of_first_mark (leftFree : mark ∉ left) (rightFree : mark ∉ right)
    (same : left ++ mark :: leftRest = right ++ mark :: rightRest) :
    left = right ∧ leftRest = rightRest := by
  induction left generalizing right with
  | nil =>
      cases right with
      | nil => exact ⟨rfl, (List.cons.inj same).2⟩
      | cons other others =>
          exact absurd ((List.cons.inj same).1 ▸ List.mem_cons_self) rightFree
  | cons first others induction =>
      cases right with
      | nil => exact absurd ((List.cons.inj same).1 ▸ List.mem_cons_self) leftFree
      | cons other rest =>
          rcases List.cons.inj same with ⟨rfl, behind⟩
          rcases induction (mt (List.mem_cons_of_mem _) leftFree)
            (mt (List.mem_cons_of_mem _) rightFree) behind with ⟨rfl, sameRest⟩
          exact ⟨rfl, sameRest⟩

theorem eq_of_last_mark (leftFree : mark ∉ leftRest) (rightFree : mark ∉ rightRest)
    (same : left ++ mark :: leftRest = right ++ mark :: rightRest) :
    left = right ∧ leftRest = rightRest := by
  have reversed := congrArg List.reverse same
  simp only [List.reverse_append, List.reverse_cons, List.append_assoc, List.singleton_append]
    at reversed
  rcases eq_of_first_mark (mt List.mem_reverse.mp leftFree) (mt List.mem_reverse.mp rightFree)
    reversed with ⟨behind, before⟩
  exact ⟨List.reverse_injective before, List.reverse_injective behind⟩

end Parted

/-! ## One after the other -/

/-- Whatever comes behind it, what was written shows what it is and where it ends. -/
def SelfDelimiting {α : Type} (write : α → List Char) : Prop :=
  ∀ ⦃left right : α⦄ ⦃leftRest rightRest : List Char⦄,
    write left ++ leftRest = write right ++ rightRest → left = right ∧ leftRest = rightRest

/-- Items one after the other show where they end if an end mark comes that no item begins with. -/
theorem SelfDelimiting.terminated {α : Type} {write : α → List Char} {mark : Char}
    {markRest : List Char} (delimited : SelfDelimiting write)
    (begins : ∀ item, ∃ first rest, write item = first :: rest ∧ first ≠ mark) :
    SelfDelimiting fun items : List α => items.flatMap write ++ mark :: markRest := by
  intro left right leftRest rightRest same
  induction left generalizing right with
  | nil =>
      cases right with
      | nil => exact ⟨rfl, List.append_cancel_left same⟩
      | cons item items =>
          rcases begins item with ⟨first, rest, written, different⟩
          simp only [List.flatMap_cons, List.flatMap_nil, written, List.cons_append,
            List.nil_append, List.cons.injEq] at same
          exact absurd same.1.symm different
  | cons item items induction =>
      cases right with
      | nil =>
          rcases begins item with ⟨first, rest, written, different⟩
          simp only [List.flatMap_cons, List.flatMap_nil, written, List.cons_append,
            List.nil_append, List.cons.injEq] at same
          exact absurd same.1 different
      | cons other others =>
          simp only [List.flatMap_cons, List.append_assoc] at same
          rcases delimited same with ⟨rfl, rest⟩
          rw [← List.append_assoc, ← List.append_assoc (others.flatMap write)] at rest
          rcases induction rest with ⟨rfl, behind⟩
          exact ⟨rfl, behind⟩

end CrdCompiler
