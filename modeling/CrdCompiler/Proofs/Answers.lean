import CrdCompiler.Yaml.Reading
import Mathlib.Algebra.BigOperators.Group.List.Basic
import Mathlib.Algebra.GroupWithZero.Nat
import Mathlib.Algebra.Order.BigOperators.Group.List

/-! # Answers of readers

A reader may follow so many references and no more. What it answers does not depend on that number
as long as it is large enough, and a reader that is put together of others needs at most what they
need together.
-/

namespace CrdCompiler.Yaml

theorem mapM_cons_eq_some {α β : Type} {step : α → Option β} {first : α} {rest : List α}
    {results : List β} (succeeds : (first :: rest).mapM step = some results) :
    ∃ result others, step first = some result ∧ rest.mapM step = some others ∧
      results = result :: others := by
  rw [List.mapM_cons, Option.bind_eq_bind, Option.bind_eq_some_iff] at succeeds
  rcases succeeds with ⟨result, given, succeeds⟩
  rw [Option.bind_eq_bind, Option.bind_eq_some_iff] at succeeds
  rcases succeeds with ⟨others, givenOthers, same⟩
  exact ⟨result, others, given, givenOthers, (Option.some.inj same).symm⟩

theorem mapM_eq_none {α β : Type} {values : List α} {step : α → Option β} {value : α}
    (member : value ∈ values) (fails : step value = none) : values.mapM step = none := by
  induction values with
  | nil => exact absurd member List.not_mem_nil
  | cons first rest induction =>
      rw [List.mapM_cons]
      rcases List.mem_cons.mp member with rfl | later
      · rw [fails]
        rfl
      · rw [induction later]
        cases step first <;> rfl

theorem exists_of_mapM {α β : Type} {values : List α} {step : α → Option β} {results : List β}
    (succeeds : values.mapM step = some results) {value : α} (member : value ∈ values) :
    ∃ result, step value = some result := by
  apply Option.ne_none_iff_exists'.mp
  intro fails
  rw [mapM_eq_none member fails] at succeeds
  cases succeeds

variable {α β : Type} {anchors : List (Nat × Node Nat)} {reader : Reader α} {limit more : Nat}
  {answer : Option α}

/-- Given at least so many references to follow, the reader comes to the answer, and it follows no
more than those. -/
def Answers (anchors : List (Nat × Node Nat)) (reader : Reader α) (limit : Nat)
    (answer : Option α) : Prop :=
  ∀ spare, ∃ left, spare ≤ left ∧
    (reader.run (limit + spare)).run anchors = answer.map (·, left)

namespace Answers

theorem pure (value : α) : Answers anchors (Pure.pure value) 0 (some value) :=
  fun spare => ⟨spare, le_rfl, by rw [Nat.zero_add]; rfl⟩

theorem failure : Answers anchors (failure : Reader α) 0 none :=
  fun spare => ⟨spare, le_rfl, rfl⟩

theorem lift (found : Option α) : Answers anchors (Fields.lift found) 0 found := by
  cases found with
  | none => exact fun spare => ⟨spare, le_rfl, rfl⟩
  | some value => exact .pure value

theorem mono (answers : Answers anchors reader limit answer) (most : limit ≤ more) :
    Answers anchors reader more answer := by
  intro spare
  rcases Nat.exists_eq_add_of_le most with ⟨extra, rfl⟩
  rcases answers (extra + spare) with ⟨left, kept, ran⟩
  refine ⟨left, (Nat.le_add_left _ _).trans kept, ?_⟩
  rw [Nat.add_assoc]
  exact ran

theorem bind {next : α → Reader β} {continued : α → Option β}
    (first : Answers anchors reader limit answer)
    (second : ∀ value, answer = some value → Answers anchors (next value) more (continued value)) :
    Answers anchors (reader >>= next) (limit + more) (answer >>= continued) := by
  intro spare
  rcases first (more + spare) with ⟨left, kept, ran⟩
  have steps : ((reader >>= next).run (limit + more + spare)).run anchors =
      (answer.map (·, left)).bind fun reached => ((next reached.1).run reached.2).run anchors := by
    rw [← ran, Nat.add_assoc]
    rfl
  cases answer with
  | none => exact ⟨spare, le_rfl, steps⟩
  | some value =>
      rcases Nat.exists_eq_add_of_le kept with ⟨extra, rfl⟩
      rcases second value rfl (spare + extra) with ⟨last, keptLast, ranLast⟩
      refine ⟨last, (Nat.le_add_right _ _).trans keptLast, ?_⟩
      rw [steps, Option.map_some, Option.bind_some, Nat.add_assoc]
      exact ranLast

theorem bind_some {value : α} {next : α → Reader β} {result : Option β}
    (first : Answers anchors reader limit (some value))
    (second : Answers anchors (next value) more result) :
    Answers anchors (reader >>= next) (limit + more) result := by
  have reached : result = some value >>= fun _ => result := rfl
  rw [reached]
  apply first.bind
  intro other same
  cases same
  exact second

theorem bind_none {next : α → Reader β} (first : Answers anchors reader limit none) :
    Answers anchors (reader >>= next) limit none := by
  have stuck : (none : Option β) = (none : Option α) >>= fun _ => none := rfl
  rw [stuck, ← Nat.add_zero limit]
  exact first.bind fun value found => nomatch found

theorem map (answers : Answers anchors reader limit answer) (change : α → β) :
    Answers anchors (reader >>= fun value => Pure.pure (change value)) limit
      (answer.map change) := by
  have bound := answers.bind fun value _ => .pure (change value)
  cases answer <;> exact bound

theorem mapM {values : List α} {each : α → Reader β} {limits : α → Nat}
    {answers : α → Option β}
    (parts : ∀ value ∈ values, Answers anchors (each value) (limits value) (answers value)) :
    Answers anchors (values.mapM each) (values.map limits).sum (values.mapM answers) := by
  induction values with
  | nil => exact .pure []
  | cons first rest induction =>
      rcases List.forall_mem_cons.mp parts with ⟨here, others⟩
      rw [List.mapM_cons, List.mapM_cons, List.map_cons, List.sum_cons]
      apply here.bind
      intro value _
      exact (induction others).bind fun values _ => .pure (value :: values)

theorem mapM_given {γ : Type} {values : List α} {given : List γ} {each : α → Reader β}
    {limits : α → Nat} {give : α → Option γ} {answers : γ → Option β}
    (gives : values.mapM give = some given)
    (parts : ∀ value ∈ values, ∀ result, give value = some result →
      Answers anchors (each value) (limits value) (answers result)) :
    Answers anchors (values.mapM each) (values.map limits).sum (given.mapM answers) := by
  induction values generalizing given with
  | nil =>
      cases gives
      exact .pure []
  | cons first rest induction =>
      rcases List.forall_mem_cons.mp parts with ⟨here, others⟩
      rcases mapM_cons_eq_some gives with ⟨result, results, givesFirst, givesRest, rfl⟩
      rw [List.mapM_cons, List.mapM_cons, List.map_cons, List.sum_cons]
      apply (here result givesFirst).bind
      intro value _
      exact (induction givesRest others).bind fun values _ => .pure (value :: values)

end Answers

/-- The reader follows so many references and then comes to the answer. With fewer it comes to
nothing. -/
def Takes (anchors : List (Nat × Node Nat)) (reader : Reader α) (price : Nat)
    (answer : Option α) : Prop :=
  ∀ budget, (reader.run budget).run anchors =
    if price ≤ budget then answer.map (·, budget - price) else none

namespace Takes

variable {price : Nat}

theorem pure (value : α) : Takes anchors (Pure.pure value) 0 (some value) := fun _ => rfl

theorem failure : Takes anchors (failure : Reader α) price none :=
  fun _ => (ite_self none).symm

theorem lift (found : Option α) : Takes anchors (Fields.lift found) 0 found := by
  cases found with
  | none => exact .failure
  | some value => exact .pure value

theorem bind {next : α → Reader β} {continued : α → Option β}
    (first : Takes anchors reader price answer)
    (second : ∀ value, answer = some value → Takes anchors (next value) more (continued value)) :
    Takes anchors (reader >>= next) (price + more) (answer >>= continued) := by
  intro budget
  have steps : ((reader >>= next).run budget).run anchors =
      (if price ≤ budget then answer.map (·, budget - price) else none).bind fun reached =>
        ((next reached.1).run reached.2).run anchors := by
    rw [← first budget]
    rfl
  rw [steps]
  cases answer with
  | none => simp
  | some value =>
      by_cases paid : price ≤ budget
      · rw [if_pos paid, Option.map_some, Option.bind_some, second value rfl, Nat.sub_sub]
        simp only [Nat.le_sub_iff_add_le' paid]
        rfl
      · rw [if_neg paid, if_neg fun both => paid ((Nat.le_add_right _ _).trans both)]
        rfl

theorem map (takes : Takes anchors reader price answer) (change : α → β) :
    Takes anchors (reader >>= fun value => Pure.pure (change value)) price
      (answer.map change) := by
  have bound := takes.bind fun value _ => .pure (change value)
  cases answer <;> exact bound

theorem mapM {values : List α} {each : α → Reader β} {prices : α → Nat}
    {answers : α → Option β}
    (parts : ∀ value ∈ values, Takes anchors (each value) (prices value) (answers value)) :
    Takes anchors (values.mapM each) (values.map prices).sum (values.mapM answers) := by
  induction values with
  | nil => exact .pure []
  | cons first rest induction =>
      rcases List.forall_mem_cons.mp parts with ⟨here, others⟩
      rw [List.mapM_cons, List.mapM_cons, List.map_cons, List.sum_cons]
      apply here.bind
      intro value _
      exact (induction others).bind fun values _ => .pure (value :: values)

theorem answers (takes : Takes anchors reader price answer) :
    Answers anchors reader price answer := by
  intro spare
  refine ⟨spare, le_rfl, ?_⟩
  rw [takes, if_pos (Nat.le_add_right _ _), Nat.add_sub_cancel_left]

end Takes

end CrdCompiler.Yaml
