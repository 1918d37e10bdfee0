import CrdCompiler.HelperSet
import CrdCompiler.Proofs.FieldTree

/-! # Flags of helper summaries

A summary is a union over the properties of all levels, so each of its flags is set exactly when
some property sets it, and neither order nor repetition counts.
-/

namespace CrdCompiler

namespace HelperSet

def defaultsOf (helpers : HelperSet) : ScalarKind → Bool
  | .string => helpers.defaultsString
  | .int64 => helpers.defaultsInt64
  | .float64 => helpers.defaultsFloat64
  | .bool => helpers.defaultsBool

def validatorOf (helpers : HelperSet) : ScalarKind → Bool
  | .string => helpers.validatorString
  | .int64 => helpers.validatorInt64
  | .float64 => helpers.validatorFloat64
  | .bool => helpers.validatorBool

/-! ## Flags -/

structure IsFlag (flag : HelperSet → Bool) : Prop where
  none : flag HelperSet.none = false
  union : ∀ left right : HelperSet, flag (left.union right) = (flag left || flag right)

theorem isFlag_defaultsOf (kind : ScalarKind) : IsFlag fun helpers => helpers.defaultsOf kind := by
  cases kind <;> exact ⟨rfl, fun _ _ => rfl⟩

theorem isFlag_validatorOf (kind : ScalarKind) :
    IsFlag fun helpers => helpers.validatorOf kind := by
  cases kind <;> exact ⟨rfl, fun _ _ => rfl⟩

theorem isFlag_validatorBase64 : IsFlag validatorBase64 := ⟨rfl, fun _ _ => rfl⟩

theorem isFlag_validatorDateTime : IsFlag validatorDateTime := ⟨rfl, fun _ _ => rfl⟩

theorem eq_of_kinds {left right : HelperSet}
    (defaults : ∀ kind, left.defaultsOf kind = right.defaultsOf kind)
    (validators : ∀ kind, left.validatorOf kind = right.validatorOf kind)
    (base64 : left.validatorBase64 = right.validatorBase64)
    (dateTime : left.validatorDateTime = right.validatorDateTime) : left = right := by
  cases left
  cases right
  rw [mk.injEq]
  exact ⟨defaults .string, defaults .int64, defaults .float64, defaults .bool, validators .string,
    validators .int64, validators .float64, validators .bool, base64, dateTime⟩

theorem eq_of_flags {left right : HelperSet}
    (same : ∀ flag, IsFlag flag → flag left = flag right) : left = right :=
  eq_of_kinds (fun kind => same _ (isFlag_defaultsOf kind))
    (fun kind => same _ (isFlag_validatorOf kind)) (same _ isFlag_validatorBase64)
    (same _ isFlag_validatorDateTime)

def ofOwn (property : Property) : HelperSet :=
  union
    (match property.default with
    | some literal => ofDefault literal.kind
    | .none => none)
    (ofConstraints property.type property.validators)

theorem ofProperty_eq (property : Property) :
    ofProperty property = (ofOwn property).union (ofProperties property.children) := by
  cases property
  rw [ofProperty.eq_def]
  rfl

namespace IsFlag

variable {flag : HelperSet → Bool}

theorem ofConstraints (isFlag : IsFlag flag) (type : TypeDescriptor) (rules : List Constraint) :
    flag (HelperSet.ofConstraints type rules) =
      rules.any fun rule => flag (ofConstraint type rule) := by
  induction rules with
  | nil => exact isFlag.none
  | cons rule rest induction =>
      rw [List.any_cons, ← induction]
      exact isFlag.union _ _

theorem ofProperties (isFlag : IsFlag flag) (siblings : List Property) :
    flag (HelperSet.ofProperties siblings) =
      siblings.any fun property => flag (ofProperty property) := by
  induction siblings with
  | nil => exact isFlag.none
  | cons property rest induction =>
      rw [List.any_cons, ← induction, HelperSet.ofProperties]
      exact isFlag.union _ _

theorem ofProperty (isFlag : IsFlag flag) (property : Property) :
    flag (HelperSet.ofProperty property) =
      (flag (ofOwn property) || flag (HelperSet.ofProperties property.children)) := by
  rw [ofProperty_eq, isFlag.union]

theorem recorded (isFlag : IsFlag flag) (helpers : HelperSet) (siblings : List Property) :
    flag (siblings.foldl record helpers) =
      (flag helpers || flag (HelperSet.ofProperties siblings)) := by
  induction siblings generalizing helpers with
  | nil => rw [List.foldl_nil, HelperSet.ofProperties, isFlag.none, Bool.or_false]
  | cons property rest induction =>
      rw [List.foldl_cons, induction, record, isFlag.union, HelperSet.ofProperties, isFlag.union,
        Bool.or_assoc]

theorem collected (isFlag : IsFlag flag) (helpers : HelperSet) (trees : List (List Property)) :
    flag (trees.foldl (fun helpers tree => tree.foldl record helpers) helpers) =
      (flag helpers || trees.any fun tree => flag (HelperSet.ofProperties tree)) := by
  induction trees generalizing helpers with
  | nil => rw [List.foldl_nil, List.any_nil, Bool.or_false]
  | cons tree rest induction =>
      rw [List.foldl_cons, induction, isFlag.recorded, List.any_cons, Bool.or_assoc]

theorem collect (isFlag : IsFlag flag) (trees : List (List Property)) :
    flag (HelperSet.collect trees) = trees.any fun tree => flag (HelperSet.ofProperties tree) := by
  rw [HelperSet.collect, isFlag.collected, isFlag.none, Bool.false_or]

theorem exists_within (isFlag : IsFlag flag) (siblings : List Property)
    (set : flag (HelperSet.ofProperties siblings)) :
    ∃ property, Property.Within siblings property ∧ flag (ofOwn property) := by
  rw [isFlag.ofProperties, List.any_eq_true] at set
  rcases set with ⟨parent, member, set⟩
  rw [isFlag.ofProperty, Bool.or_eq_true] at set
  rcases set with here | below
  · exact ⟨parent, .sibling member, here⟩
  · rcases exists_within isFlag parent.children below with ⟨property, within, set⟩
    exact ⟨property, .inside member within, set⟩
termination_by sizeOf siblings
decreasing_by
  have smaller := List.sizeOf_lt_of_mem member
  cases parent
  simp only [Property.mk.sizeOf_spec] at smaller ⊢
  omega

theorem ofProperties_iff (isFlag : IsFlag flag) {siblings : List Property} :
    flag (HelperSet.ofProperties siblings) ↔
      ∃ property, Property.Within siblings property ∧ flag (ofOwn property) := by
  constructor
  · exact isFlag.exists_within siblings
  · intro holds
    rcases holds with ⟨property, within, set⟩
    induction within with
    | sibling member =>
        rw [isFlag.ofProperties, List.any_eq_true]
        exact ⟨_, member, by rw [isFlag.ofProperty, set, Bool.true_or]⟩
    | inside member _ induction =>
        rw [isFlag.ofProperties, List.any_eq_true]
        exact ⟨_, member, by rw [isFlag.ofProperty, induction set, Bool.or_true]⟩

end IsFlag

theorem collect_eq (trees : List (List Property)) : collect trees = ofProperties trees.flatten := by
  apply eq_of_flags
  intro flag isFlag
  simp only [isFlag.collect, isFlag.ofProperties, List.any_flatten]

theorem ofProperties_append (siblings others : List Property) :
    ofProperties (siblings ++ others) = (ofProperties siblings).union (ofProperties others) := by
  apply eq_of_flags
  intro flag isFlag
  rw [isFlag.union, isFlag.ofProperties, isFlag.ofProperties, isFlag.ofProperties, List.any_append]

theorem collect_append (trees others : List (List Property)) :
    collect (trees ++ others) = (collect trees).union (collect others) := by
  rw [collect_eq, collect_eq, collect_eq, List.flatten_append, ofProperties_append]

theorem collect_joined (tree other : List Property) :
    collect [tree ++ other] = (collect [tree]).union (collect [other]) := by
  rw [collect_eq, collect_eq, collect_eq, List.flatten_singleton, List.flatten_singleton,
    List.flatten_singleton, ofProperties_append]

theorem ofProperties_eq_none_iff {siblings : List Property} :
    ofProperties siblings = none ↔
      ∀ property, Property.Within siblings property → ofOwn property = none := by
  constructor
  · intro empty property within
    apply eq_of_flags
    intro flag isFlag
    have unset : flag (ofProperties siblings) = false := by rw [empty, isFlag.none]
    rw [isFlag.none, Bool.eq_false_iff]
    intro set
    rw [isFlag.ofProperties_iff.mpr ⟨property, within, set⟩] at unset
    cases unset
  · intro all
    apply eq_of_flags
    intro flag isFlag
    rw [isFlag.none, Bool.eq_false_iff]
    intro set
    rcases isFlag.exists_within siblings set with ⟨property, within, set⟩
    rw [all property within, isFlag.none] at set
    cases set

end HelperSet

/-! ## Order and repetition -/

namespace Property

/-- Siblings that differ by order and repetition alone: their own, and at any place below them that
of children and of rules. -/
inductive Rearranged : List Property → List Property → Prop where
  | siblings {left right : List Property} (same : ∀ property, property ∈ left ↔ property ∈ right) :
      Rearranged left right
  | inside (before after : List Property) (property : Property) {validators : List Constraint}
      {children : List Property} (rules : ∀ rule, rule ∈ property.validators ↔ rule ∈ validators)
      (deeper : Rearranged property.children children) :
      Rearranged (before ++ property :: after)
        (before ++ { property with validators, children } :: after)
  | trans {left middle right : List Property} (first : Rearranged left middle)
      (second : Rearranged middle right) : Rearranged left right

/-- Trees that differ by order and repetition alone, of whole trees and inside them. -/
structure RearrangedTrees (left right : List (List Property)) : Prop where
  onward : ∀ tree ∈ left, ∃ other ∈ right, Rearranged tree other
  back : ∀ other ∈ right, ∃ tree ∈ left, Rearranged tree other

end Property

namespace HelperSet

open Property

theorem any_eq_of_mem_iff {α : Type} {left right : List α}
    (same : ∀ item, item ∈ left ↔ item ∈ right) (holds : α → Bool) :
    left.any holds = right.any holds := by
  rw [Bool.eq_iff_iff, List.any_eq_true, List.any_eq_true]
  exact exists_congr fun item => and_congr_left fun _ => same item

/-- The order of the rules of a property and their repetition do not count. -/
theorem ofOwn_rearranged (property : Property) {validators : List Constraint}
    (rules : ∀ rule, rule ∈ property.validators ↔ rule ∈ validators) (children : List Property) :
    ofOwn { property with validators, children } = ofOwn property := by
  apply eq_of_flags
  intro flag isFlag
  unfold ofOwn
  rw [isFlag.union, isFlag.union, isFlag.ofConstraints, isFlag.ofConstraints,
    any_eq_of_mem_iff rules]

theorem ofProperties_rearranged {left right : List Property} (same : Rearranged left right) :
    ofProperties left = ofProperties right := by
  induction same with
  | siblings same =>
      apply eq_of_flags
      intro flag isFlag
      rw [isFlag.ofProperties, isFlag.ofProperties, any_eq_of_mem_iff same]
  | @inside before after property validators children rules deeper induction =>
      have whole := ofProperty_eq { property with validators, children }
      rw [ofOwn_rearranged property rules, ← induction, ← ofProperty_eq] at whole
      apply eq_of_flags
      intro flag isFlag
      simp only [isFlag.ofProperties, List.any_append, List.any_cons, whole]
  | trans _ _ first second => exact first.trans second

theorem ofProperties_sortSiblings (siblings : List Property) :
    ofProperties (sortSiblings siblings) = ofProperties siblings :=
  ofProperties_rearranged (.siblings fun _ => mem_sortSiblings)

theorem collect_rearranged {left right : List (List Property)} (same : RearrangedTrees left right) :
    collect left = collect right := by
  apply eq_of_flags
  intro flag isFlag
  rw [isFlag.collect, isFlag.collect, Bool.eq_iff_iff, List.any_eq_true, List.any_eq_true]
  constructor
  · intro holds
    rcases holds with ⟨tree, member, set⟩
    rcases same.onward tree member with ⟨other, member', rearranged⟩
    exact ⟨other, member', ofProperties_rearranged rearranged ▸ set⟩
  · intro holds
    rcases holds with ⟨other, member, set⟩
    rcases same.back other member with ⟨tree, member', rearranged⟩
    exact ⟨tree, member', ofProperties_rearranged rearranged ▸ set⟩

end HelperSet

end CrdCompiler
