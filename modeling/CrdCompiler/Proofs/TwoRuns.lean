import CrdCompiler.Proofs.Outcome
import Mathlib.Data.List.Perm.Basic

/-! # Two runs

Two computations are compared by their results alone: the errors of two failures may differ. A
comparison is put together step by step, as the computations are.
-/

namespace CrdCompiler.Outcome

variable {ε α α' β β' : Type}

/-- Both computations succeed, with related results, or both fail. -/
inductive Related (related : α → β → Prop) : Except ε α → Except ε β → Prop where
  | ok {left : α} {right : β} (same : related left right) : Related related (.ok left) (.ok right)
  | error (left right : ε) : Related related (.error left) (.error right)

namespace Related

variable {related : α → β → Prop} {related' : α' → β' → Prop}

theorem refl (outcome : Except ε α) : Related (· = ·) outcome outcome := by
  cases outcome with
  | error fault => exact .error fault fault
  | ok value => exact .ok rfl

theorem toOption_eq {left right : Except ε α} (same : Related (· = ·) left right) :
    left.toOption = right.toOption := by
  cases same with
  | ok same => rw [same]
  | error left right => rfl

theorem trans_eq {left : Except ε α} {middle right : Except ε β}
    (first : Related related left middle) (second : Related (· = ·) middle right) :
    Related related left right := by
  cases second with
  | ok same => exact same ▸ first
  | error _ fault =>
      cases first with
      | error left _ => exact .error left fault

theorem of_ok_iff {left right : Except ε Unit} (agree : left = .ok () ↔ right = .ok ()) :
    Related (· = ·) left right := by
  cases left with
  | ok value =>
      rw [agree.mp rfl]
      exact .refl _
  | error fault =>
      cases right with
      | ok value => cases agree.mpr rfl
      | error fault' => exact .error fault fault'

theorem of_success {left : Except ε α} {right : Except ε β} (same : Related related left right) :
    Related (fun value value' => related value value' ∧ left = .ok value) left right := by
  cases same with
  | ok same => exact .ok ⟨same, rfl⟩
  | error left right => exact .error left right

theorem bind {left : Except ε α} {right : Except ε β} {next : α → Except ε α'}
    {next' : β → Except ε β'} (first : Related related left right)
    (continued : ∀ value value', related value value' →
      Related related' (next value) (next' value')) :
    Related related' (left >>= next) (right >>= next') := by
  cases first with
  | ok same => exact continued _ _ same
  | error left right => exact .error left right

theorem map {left : Except ε α} {right : Except ε β} {change : α → α'} {change' : β → β'}
    (first : Related related left right)
    (changed : ∀ value value', related value value' → related' (change value) (change' value')) :
    Related related' (change <$> left) (change' <$> right) := by
  cases first with
  | ok same => exact .ok (changed _ _ same)
  | error left right => exact .error left right

theorem mapM {step : α → Except ε α'} {step' : β → Except ε β'} {values : List α}
    {values' : List β} (aligned : List.Forall₂
      (fun value value' => Related related' (step value) (step' value')) values values') :
    Related (List.Forall₂ related') (values.mapM step) (values'.mapM step') := by
  induction aligned with
  | nil => exact .ok .nil
  | cons first remaining induction =>
      rw [List.mapM_cons, List.mapM_cons]
      apply bind first
      intro result result' same
      apply bind induction
      intro others others' aligned
      exact .ok (.cons same aligned)

end Related

theorem mapM_perm {step : α → Except ε β} {values reordered : List α}
    (order : values.Perm reordered) {results : List β} (success : values.mapM step = .ok results) :
    ∃ results', reordered.mapM step = .ok results' ∧ results.Perm results' := by
  rcases List.perm_comp_forall₂ order.symm (mapM_eq_ok.mp success) with
    ⟨results', aligned, order'⟩
  exact ⟨results', mapM_eq_ok.mpr aligned, order'.symm⟩

theorem Related.mapM_of_perm (step : α → Except ε β) {values reordered : List α}
    (order : values.Perm reordered) :
    Related List.Perm (values.mapM step) (reordered.mapM step) := by
  cases left : values.mapM step with
  | ok results =>
      rcases mapM_perm order left with ⟨results', success, order'⟩
      rw [success]
      exact .ok order'
  | error fault =>
      cases right : reordered.mapM step with
      | ok results =>
          rcases mapM_perm order.symm right with ⟨results', success, _⟩
          rw [left] at success
          cases success
      | error fault' => exact .error fault fault'

end CrdCompiler.Outcome
