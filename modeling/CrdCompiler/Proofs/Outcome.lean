import Mathlib.Data.List.Forall2

/-! # Outcomes

What a computation that may fail returns, read off the computations it is put together from.
-/

namespace CrdCompiler.Outcome

variable {ε α β γ : Type}

@[simp] theorem ok_bind (value : α) (next : α → Except ε β) :
    (Except.ok value >>= next) = next value := rfl

@[simp] theorem error_bind (fault : ε) (next : α → Except ε β) :
    (Except.error fault >>= next) = .error fault := rfl

@[simp] theorem ok_map (value : α) (change : α → β) :
    change <$> (Except.ok value : Except ε α) = .ok (change value) := rfl

@[simp] theorem error_map (fault : ε) (change : α → β) :
    change <$> (Except.error fault : Except ε α) = .error fault := rfl

@[simp] theorem bind_ok (outcome : Except ε α) (change : α → β) :
    (outcome >>= fun value => Except.ok (change value)) = change <$> outcome := by
  cases outcome <;> rfl

theorem bind_eq_ok {outcome : Except ε α} {next : α → Except ε β} {result : β} :
    outcome >>= next = .ok result ↔ ∃ value, outcome = .ok value ∧ next value = .ok result := by
  cases outcome <;> simp

theorem map_eq_ok {outcome : Except ε α} {change : α → β} {result : β} :
    change <$> outcome = .ok result ↔ ∃ value, outcome = .ok value ∧ change value = result := by
  cases outcome <;> simp

theorem map_eq_error {outcome : Except ε α} {change : α → β} {fault : ε} :
    change <$> outcome = .error fault ↔ outcome = .error fault := by
  cases outcome <;> simp

theorem map_succeeds_iff {outcome : Except ε α} {change : α → β} :
    (∃ result, change <$> outcome = .ok result) ↔ ∃ value, outcome = .ok value := by
  cases outcome <;> simp

/-- If the computation fails, it fails as expected. -/
def FailsOnly (Expected : ε → Prop) (outcome : Except ε α) : Prop :=
  ∀ fault, outcome = .error fault → Expected fault

section

variable {Expected : ε → Prop}

theorem failsOnly_ok (value : α) : FailsOnly Expected (.ok value : Except ε α) :=
  nofun

theorem failsOnly_error {fault : ε} (expected : Expected fault) :
    FailsOnly Expected (.error fault : Except ε α) := by
  intro other same
  cases same
  exact expected

theorem FailsOnly.bind {outcome : Except ε α} {next : α → Except ε β}
    (first : FailsOnly Expected outcome)
    (continues : ∀ value, outcome = .ok value → FailsOnly Expected (next value)) :
    FailsOnly Expected (outcome >>= next) := by
  cases outcome with
  | ok value => exact continues value rfl
  | error fault => exact failsOnly_error (first fault rfl)

end

theorem mapM_eq_ok {step : α → Except ε β} {values : List α} {results : List β} :
    values.mapM step = .ok results ↔
      List.Forall₂ (fun value result => step value = .ok result) values results := by
  induction values generalizing results with
  | nil => cases results <;> simp [pure, Except.pure]
  | cons value rest induction =>
      rw [List.mapM_cons, bind_eq_ok]
      constructor
      · intro holds
        rcases holds with ⟨result, first, continued⟩
        rcases bind_eq_ok.mp continued with ⟨others, remaining, success⟩
        cases success
        exact .cons first (induction.mp remaining)
      · intro holds
        rcases holds with (_ | ⟨first, remaining⟩)
        exact ⟨_, first, bind_eq_ok.mpr ⟨_, induction.mpr remaining, rfl⟩⟩

theorem mapM_succeeds_iff {step : α → Except ε β} {values : List α} :
    (∃ results, values.mapM step = .ok results) ↔
      ∀ value ∈ values, ∃ result, step value = .ok result := by
  induction values with
  | nil => simp [pure, Except.pure]
  | cons value rest induction =>
      rw [List.forall_mem_cons, ← induction]
      constructor
      · intro holds
        rcases holds with ⟨results, success⟩
        cases mapM_eq_ok.mp success with
        | cons first remaining => exact ⟨⟨_, first⟩, _, mapM_eq_ok.mpr remaining⟩
      · intro holds
        rcases holds with ⟨⟨result, first⟩, results, remaining⟩
        exact ⟨result :: results, mapM_eq_ok.mpr (.cons first (mapM_eq_ok.mp remaining))⟩

/-- A run along a list fails as its first failing step does. -/
theorem mapM_eq_error {step : α → Except ε β} {values : List α} {fault : ε} :
    values.mapM step = .error fault ↔
      ∃ before value after, values = before ++ value :: after ∧
        (∀ earlier ∈ before, ∃ result, step earlier = .ok result) ∧ step value = .error fault := by
  induction values with
  | nil => simp [pure, Except.pure]
  | cons value rest induction =>
      rw [List.mapM_cons]
      cases first : step value with
      | error earliest =>
          rw [error_bind, Except.error.injEq]
          constructor
          · intro equal
            exact ⟨[], value, rest, rfl, by simp, first.trans (congrArg _ equal)⟩
          · intro holds
            rcases holds with ⟨before, failing, after, split, succeed, fails⟩
            cases before with
            | nil =>
                cases split
                exact Except.error.inj (first.symm.trans fails)
            | cons earlier others =>
                rcases List.cons.inj split with ⟨same, _⟩
                rcases succeed earlier List.mem_cons_self with ⟨result, success⟩
                rw [← same, first] at success
                cases success
      | ok result =>
          have further : (rest.mapM step >>= fun results => pure (result :: results)) =
              .error fault ↔ rest.mapM step = .error fault := by
            cases rest.mapM step <;> simp [pure, Except.pure]
          rw [ok_bind, further, induction]
          constructor
          · intro holds
            rcases holds with ⟨before, failing, after, rfl, succeed, fails⟩
            exact ⟨value :: before, failing, after, rfl,
              List.forall_mem_cons.mpr ⟨⟨result, first⟩, succeed⟩, fails⟩
          · intro holds
            rcases holds with ⟨before, failing, after, split, succeed, fails⟩
            cases before with
            | nil =>
                cases split
                cases first.symm.trans fails
            | cons earlier others =>
                rcases List.cons.inj split with ⟨_, remaining⟩
                exact ⟨others, failing, after, remaining, (List.forall_mem_cons.mp succeed).2, fails⟩

section

variable {m : Type → Type} [Monad m] [LawfulMonad m]

theorem mapM_changed {step : α → m β} {step' : α → m γ} {change : β → γ} {values : List α}
    (changed : ∀ value ∈ values, step' value = change <$> step value) :
    values.mapM step' = List.map change <$> values.mapM step := by
  induction values with
  | nil => rw [List.mapM_nil, List.mapM_nil, map_pure, List.map_nil]
  | cons value rest induction =>
      rcases List.forall_mem_cons.mp changed with ⟨first, others⟩
      rw [List.mapM_cons, List.mapM_cons, first, induction others]
      simp only [map_bind, bind_map_left, map_pure, List.map_cons]

theorem mapM_congr {step step' : α → m β} {values : List α}
    (same : ∀ value ∈ values, step' value = step value) :
    values.mapM step' = values.mapM step := by
  have run := mapM_changed fun value member => (same value member).trans (id_map _).symm
  rwa [List.map_id_fun, id_map] at run

end

end CrdCompiler.Outcome
