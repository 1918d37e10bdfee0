import CrdCompiler.Member
import Mathlib.Data.List.Basic
import Mathlib.Data.List.Nodup

/-! # Named members

Looking up members by name, putting them in one after another, and lists in which no name comes
twice.
-/

namespace CrdCompiler

/-! ## Looking up -/

theorem lookup_cons_eq_ite (member : String × α) (rest : List (String × α)) (name : String) :
    (member :: rest).lookup name = if name = member.1 then some member.2 else rest.lookup name := by
  rw [List.lookup_cons]
  by_cases same : name = member.1
  · rw [beq_iff_eq.mpr same, if_pos same]
  · rw [beq_eq_false_iff_ne.mpr same, if_neg same]

theorem lookup_map_values (members : List (String × α)) (change : α → β) (name : String) :
    (members.map fun member => (member.1, change member.2)).lookup name =
      (members.lookup name).map change := by
  induction members with
  | nil => rfl
  | cons member rest induction =>
      rw [List.map_cons, lookup_cons_eq_ite, lookup_cons_eq_ite, induction]
      split <;> rfl

theorem lookup_of_notMem {members : List (String × α)} {name : String}
    (absent : name ∉ members.map Prod.fst) : members.lookup name = none := by
  rw [List.lookup_eq_none_iff]
  intro member held
  exact bne_iff_ne.mpr fun same => absent (same ▸ List.mem_map_of_mem held)

theorem mem_of_lookup {members : List (String × α)} {name : String} {value : α}
    (found : members.lookup name = some value) : (name, value) ∈ members := by
  rcases List.lookup_eq_some_iff.mp found with ⟨before, after, rfl, _⟩
  exact List.mem_append_right before List.mem_cons_self

/-! ## Distinct names -/

theorem eq_of_mem_of_mem {entries : List (String × α)}
    (keys : (entries.map Prod.fst).Nodup) {name : String} {left right : α}
    (leftMember : (name, left) ∈ entries) (rightMember : (name, right) ∈ entries) :
    left = right := by
  have entry := List.inj_on_of_nodup_map keys leftMember rightMember rfl
  exact congrArg Prod.snd entry

theorem lookup_eq_some_iff_mem {entries : List (String × α)}
    (keys : (entries.map Prod.fst).Nodup) {name : String} {child : α} :
    entries.lookup name = some child ↔ (name, child) ∈ entries := by
  constructor
  · exact mem_of_lookup
  · intro member
    cases found : entries.lookup name with
    | none =>
        have absent := List.lookup_eq_none_iff.mp found _ member
        simp at absent
    | some other => rw [eq_of_mem_of_mem keys member (mem_of_lookup found)]

theorem lookup_eq_of_perm {entries reordered : List (String × α)}
    (keys : (entries.map Prod.fst).Nodup) (order : entries.Perm reordered) (name : String) :
    entries.lookup name = reordered.lookup name := by
  have keys' := (order.map Prod.fst).nodup keys
  ext child
  rw [lookup_eq_some_iff_mem keys, lookup_eq_some_iff_mem keys', order.mem_iff]

/-! ## Putting in -/

theorem lookup_putMember (members : List (String × α)) (name : String) (value : α)
    (other : String) :
    (putMember members name value).lookup other =
      if other = name then some value else members.lookup other := by
  induction members with
  | nil => rw [putMember, lookup_cons_eq_ite]
  | cons member rest induction =>
      rcases member with ⟨first, held⟩
      by_cases taken : first = name
      · subst first
        simp only [putMember, if_true, lookup_cons_eq_ite]
        split <;> rfl
      · simp only [putMember, if_neg taken, lookup_cons_eq_ite, induction]
        split
        · rename_i same
          rw [same, if_neg taken]
        · rfl

theorem putMember_of_notMem {members : List (String × α)} {name : String}
    (fresh : name ∉ members.map Prod.fst) (value : α) :
    putMember members name value = members ++ [(name, value)] := by
  induction members with
  | nil => rfl
  | cons member rest induction =>
      rw [List.map_cons, List.mem_cons, not_or] at fresh
      rw [putMember, if_neg (Ne.symm fresh.1), induction fresh.2, List.cons_append]

theorem foldl_putMember (known : List (String × α)) {members : List (String × α)}
    (distinct : ((known ++ members).map Prod.fst).Nodup) :
    members.foldl (fun known (name, value) => putMember known name value) known =
      known ++ members := by
  induction members generalizing known with
  | nil => rw [List.foldl_nil, List.append_nil]
  | cons member rest induction =>
      rcases member with ⟨name, value⟩
      have regrouped : known ++ (name, value) :: rest = (known ++ [(name, value)]) ++ rest := by
        simp
      have fresh : name ∉ known.map Prod.fst := by
        rw [List.map_append, List.map_cons] at distinct
        intro held
        exact List.disjoint_of_nodup_append distinct held List.mem_cons_self
      rw [regrouped] at distinct
      rw [List.foldl_cons]
      simp only [putMember_of_notMem fresh]
      rw [induction _ distinct, regrouped]

end CrdCompiler
