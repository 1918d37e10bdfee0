import Mathlib.Data.List.Sort

/-! # Stable order

Sorting by an order in which different values may tie. Values that tie keep the order that they come
in, and this together with ascent tells the sorted list, so that sorting two parts and merging them
is sorting the whole. Orders by a key are of this kind, and strict where the keys are distinct.
-/

namespace CrdCompiler

/-- Any two values compare, and comparisons chain; values that compare both ways tie. -/
structure IsTotalPreorder {α : Type} (le : α → α → Bool) : Prop where
  transitive : ∀ first second third, le first second → le second third → le first third
  total : ∀ left right, le left right || le right left

theorem isTotalPreorder_of_key {α κ : Type} [LinearOrder κ] (key : α → κ) :
    IsTotalPreorder fun left right => decide (key left ≤ key right) where
  transitive _ _ _ lower upper :=
    decide_eq_true (le_trans (of_decide_eq_true lower) (of_decide_eq_true upper))
  total left right := by simpa using le_total (key left) (key right)

namespace IsTotalPreorder

variable {α : Type} {le : α → α → Bool}

def ties (le : α → α → Bool) (left right : α) : Bool :=
  le left right && le right left

theorem ties_of_key {κ : Type} [LinearOrder κ] (key : α → κ) (value : α) :
    ties (fun left right => decide (key left ≤ key right)) value =
      fun other => decide (key other = key value) := by
  funext other
  rw [ties, ← Bool.decide_and, decide_eq_decide, and_comm, le_antisymm_iff]

theorem ties_self (order : IsTotalPreorder le) (value : α) : ties le value value := by
  have reflexive := order.total value value
  rw [Bool.or_self] at reflexive
  rw [ties, reflexive, Bool.and_self]

theorem pairwise_filter_ties (order : IsTotalPreorder le) (value : α) (values : List α) :
    (values.filter (ties le value)).Pairwise fun left right => le left right := by
  apply List.pairwise_of_forall_mem_list
  intro left leftMember right rightMember
  have leftTies := Bool.and_eq_true_iff.mp (List.mem_filter.mp leftMember).2
  have rightTies := Bool.and_eq_true_iff.mp (List.mem_filter.mp rightMember).2
  exact order.transitive _ _ _ leftTies.2 rightTies.1

theorem filter_mergeSort (order : IsTotalPreorder le) (value : α) (values : List α) :
    (values.mergeSort le).filter (ties le value) = values.filter (ties le value) := by
  have kept : (values.filter (ties le value)).Sublist (values.mergeSort le) :=
    List.sublist_mergeSort order.transitive order.total
      (order.pairwise_filter_ties value values) List.filter_sublist
  have keptTies := kept.filter (ties le value)
  simp only [List.filter_filter, Bool.and_self] at keptTies
  have reordered := (values.mergeSort_perm le).filter (ties le value)
  exact (keptTies.eq_of_length reordered.length_eq.symm).symm

theorem filter_merge (order : IsTotalPreorder le) (value : α) {left right : List α}
    (leftAscends : left.Pairwise fun lower upper => le lower upper)
    (rightAscends : right.Pairwise fun lower upper => le lower upper) :
    (left.merge right le).filter (ties le value) =
      left.filter (ties le value) ++ right.filter (ties le value) := by
  induction left generalizing right with
  | nil => rw [List.nil_merge, List.filter_nil, List.nil_append]
  | cons first others induction =>
      induction right with
      | nil => rw [List.merge_right, List.filter_nil, List.append_nil]
      | cons second further inner =>
          rw [List.cons_merge_cons]
          split
          · have merged := induction (List.pairwise_cons.mp leftAscends).2 rightAscends
            rw [List.filter_cons, List.filter_cons, merged]
            split <;> rfl
          · rename_i later
            rw [List.filter_cons, inner (List.pairwise_cons.mp rightAscends).2]
            by_cases tied : ties le value second
            · have apart : (first :: others).filter (ties le value) = [] := by
                rw [List.filter_eq_nil_iff]
                intro other member otherTied
                -- What ties with `second` would come after `first` and before `second`.
                have least : le first other := by
                  rcases List.mem_cons.mp member with rfl | member
                  · exact (Bool.and_eq_true_iff.mp (order.ties_self other)).1
                  · exact (List.pairwise_cons.mp leftAscends).1 other member
                have below := (Bool.and_eq_true_iff.mp otherTied).2
                have above := (Bool.and_eq_true_iff.mp tied).1
                exact later (order.transitive _ _ _ least (order.transitive _ _ _ below above))
              rw [if_pos tied, apart, List.filter_cons_of_pos tied]
              rfl
            · rw [if_neg tied, List.filter_cons_of_neg tied]

/-- An ascending list is told by its ties. -/
theorem eq_of_filter_ties (order : IsTotalPreorder le) {left right : List α}
    (leftAscends : left.Pairwise fun lower upper => le lower upper)
    (rightAscends : right.Pairwise fun lower upper => le lower upper)
    (same : ∀ value, left.filter (ties le value) = right.filter (ties le value)) :
    left = right := by
  have least : ∀ {first second : α} {others further : List α},
      (second :: further).Pairwise (fun lower upper => le lower upper) →
      (first :: others).filter (ties le first) = (second :: further).filter (ties le first) →
      le second first := by
    intro first second others further ascends same
    have member : first ∈ (second :: further).filter (ties le first) :=
      same ▸ List.mem_filter.mpr ⟨List.mem_cons_self, order.ties_self first⟩
    rcases List.mem_cons.mp (List.mem_filter.mp member).1 with rfl | member
    · exact (Bool.and_eq_true_iff.mp (order.ties_self first)).1
    · exact (List.pairwise_cons.mp ascends).1 first member
  induction left generalizing right with
  | nil =>
      cases right with
      | nil => rfl
      | cons second further =>
          have impossible := same second
          rw [List.filter_cons_of_pos (order.ties_self second)] at impossible
          exact absurd impossible.symm (List.cons_ne_nil _ _)
  | cons first others induction =>
      cases right with
      | nil =>
          have impossible := same first
          rw [List.filter_cons_of_pos (order.ties_self first)] at impossible
          exact absurd impossible (List.cons_ne_nil _ _)
      | cons second further =>
          have tied : ties le first second :=
            Bool.and_eq_true_iff.mpr
              ⟨least leftAscends (same second).symm, least rightAscends (same first)⟩
          have heads := same first
          rw [List.filter_cons_of_pos (order.ties_self first), List.filter_cons_of_pos tied] at heads
          cases (List.cons.inj heads).1
          have rest : others = further := by
            apply induction (List.pairwise_cons.mp leftAscends).2
              (List.pairwise_cons.mp rightAscends).2
            intro value
            have whole := same value
            by_cases here : ties le value first
            · rw [List.filter_cons_of_pos here, List.filter_cons_of_pos here] at whole
              exact (List.cons.inj whole).2
            · rwa [List.filter_cons_of_neg here, List.filter_cons_of_neg here] at whole
          rw [rest]

theorem mergeSort_filter (order : IsTotalPreorder le) (keeps : α → Bool) (values : List α) :
    (values.filter keeps).mergeSort le = (values.mergeSort le).filter keeps := by
  have sorted := List.pairwise_mergeSort order.transitive order.total
  apply order.eq_of_filter_ties (sorted _) ((sorted values).filter _)
  intro value
  calc ((values.filter keeps).mergeSort le).filter (ties le value)
      = (values.filter (ties le value)).filter keeps := by
        rw [order.filter_mergeSort, List.filter_comm]
    _ = ((values.mergeSort le).filter keeps).filter (ties le value) := by
        rw [← order.filter_mergeSort, List.filter_comm]

theorem mergeSort_append (order : IsTotalPreorder le) (left right : List α) :
    (left ++ right).mergeSort le = (left.mergeSort le).merge (right.mergeSort le) le := by
  have sorted := List.pairwise_mergeSort order.transitive order.total
  apply order.eq_of_filter_ties (sorted _)
  · exact List.pairwise_merge order.transitive order.total _ _ (sorted left) (sorted right)
  · intro value
    rw [order.filter_merge value (sorted left) (sorted right), order.filter_mergeSort,
      order.filter_mergeSort, order.filter_mergeSort, List.filter_append]

end IsTotalPreorder

/-! ## Sorting by a key -/

section Key

variable {α κ : Type} [LinearOrder κ] {key : α → κ}

theorem mergeSort_key_pairwise (values : List α) :
    (values.mergeSort fun left right => key left ≤ key right).Pairwise fun left right =>
      key left ≤ key right := by
  have order := isTotalPreorder_of_key key
  exact (List.pairwise_mergeSort order.transitive order.total values).imp of_decide_eq_true

theorem mergeSort_key_eq_self_iff {values : List α} :
    (values.mergeSort fun left right => key left ≤ key right) = values ↔
      values.Pairwise fun left right => key left ≤ key right := by
  constructor
  · intro unchanged
    exact unchanged ▸ mergeSort_key_pairwise values
  · intro ascends
    exact List.mergeSort_of_pairwise (ascends.imp decide_eq_true)

theorem mergeSort_key_ascends {values : List α} (distinct : (values.map key).Nodup) :
    (values.mergeSort fun left right => key left ≤ key right).Pairwise fun left right =>
      key left < key right := by
  have different : (values.mergeSort fun left right => key left ≤ key right).Pairwise
      fun left right => key left ≠ key right :=
    List.pairwise_map.mp (((values.mergeSort_perm _).symm.map key).nodup distinct)
  exact ((mergeSort_key_pairwise values).and different).imp fun ordered =>
    lt_of_le_of_ne ordered.1 ordered.2

theorem mergeSort_key_eq_of_ascends {values ordered : List α} (order : ordered.Perm values)
    (ascends : ordered.Pairwise fun left right => key left < key right) :
    (values.mergeSort fun left right => key left ≤ key right) = ordered := by
  have distinct : (values.map key).Nodup := by
    apply (order.map key).nodup
    exact List.pairwise_map.mpr (ascends.imp ne_of_lt)
  exact ((values.mergeSort_perm _).trans order.symm).eq_of_pairwise
    (fun _ _ _ _ less greater => (lt_asymm less greater).elim) (mergeSort_key_ascends distinct)
    ascends

end Key

end CrdCompiler
