import CrdCompiler.Proofs.Assembling
import CrdCompiler.Proofs.HelperSummary
import CrdCompiler.Proofs.Rounding
import CrdCompiler.Proofs.Validators

/-! # Finite literals

No infinity and nothing that is not a number comes into a property tree: a raw number of a schema is
an integer of 64 bits or a finite double, and a bound is checked after it has been moved.
-/

namespace CrdCompiler

def Literal.IsFinite (literal : Literal) : Prop :=
  ∀ number, literal = .float64 number → ∃ value, number = .finite value

theorem Literal.isFinite_of_ofRaw? {kind : ScalarKind} {raw : Json} {literal : Literal}
    (decoded : ofRaw? kind raw = some literal) : literal.IsFinite := by
  intro number isFloat
  subst isFloat
  unfold ofRaw? at decoded
  split at decoded
  · cases decoded
  · rcases Option.map_eq_some_iff.mp decoded with ⟨word, _, impossible⟩
    cases impossible
  · rename_i stated
    cases decoded
    cases stated with
    | integer number => exact Binary64.ofInt_finite number
    | float value => exact ⟨value, rfl⟩
  · cases decoded
  · cases decoded

namespace Metadata

variable {node : SchemaNode} {kind : ScalarKind} {path : SchemaPath}

theorem isFinite_of_bound {value : Binary64} {side : BoundSide} {literal : Literal}
    (bounded : bound value kind path side = .ok literal) : literal.IsFinite := by
  intro number isFloat
  subst isFloat
  unfold bound at bounded
  split at bounded
  · rename_i finite
    split at bounded
    · cases bounded
      exact ⟨finite, rfl⟩
    · split at bounded <;> cases bounded
  · cases bounded

theorem isFinite_of_movedBound {stated : Option Binary64} {move : Binary64 → Binary64}
    {side : BoundSide} {moved : Option Literal}
    (bounded : movedBound stated move kind path side = .ok moved) :
    ∀ literal ∈ moved, literal.IsFinite := by
  intro literal member
  cases member
  cases stated with
  | none => cases bounded
  | some value =>
      rcases Outcome.map_eq_ok.mp bounded with ⟨_, found, same⟩
      cases same
      exact isFinite_of_bound found

theorem isFinite_of_defaultOf {default : Option Literal}
    (decoded : defaultOf node kind path = .ok default) : ∀ literal ∈ default, literal.IsFinite := by
  intro literal member
  cases member
  have related := defaultOf_eq_ok.mp decoded
  generalize node.default = stated at related
  cases related with
  | some found => exact Literal.isFinite_of_ofRaw? found

theorem isFinite_of_oneOf {values : List Literal} (supported : node.Supports kind (.oneOf values)) :
    ∀ literal ∈ values, literal.IsFinite := by
  change List.Forall₂ _ node.enum values at supported
  generalize node.enum = raws at supported
  induction supported with
  | nil => exact List.forall_mem_nil _
  | cons decoded _ induction =>
      exact List.forall_mem_cons.mpr ⟨Literal.isFinite_of_ofRaw? decoded, induction⟩

theorem isFinite_of_numberRules {rules : List Constraint}
    (derived : numberRules node kind path = .ok rules) :
    ∀ rule ∈ rules, ∀ literal ∈ rule.literals, literal.IsFinite := by
  rcases numberRules_eq_ok.mp derived with ⟨least, greatest, lower, upper, rfl⟩
  intro rule member
  rcases List.mem_append.mp member with member | member
  · rcases Option.map_eq_some_iff.mp (Option.mem_toList.mp member) with ⟨bound, stated, rfl⟩
    exact List.forall_mem_singleton.mpr (isFinite_of_movedBound lower bound stated)
  · rcases Option.map_eq_some_iff.mp (Option.mem_toList.mp member) with ⟨bound, stated, rfl⟩
    exact List.forall_mem_singleton.mpr (isFinite_of_movedBound upper bound stated)

/-- A bound comes with the rules of numbers and from nowhere else. -/
theorem mem_numberRules {rules : List Constraint} (derived : validatorsOf node kind path = .ok rules)
    {rule : Constraint} (member : rule ∈ rules) (isBound : rule.family ∈ RuleFamily.ofNumbers) :
    ∃ bounds, numberRules node kind path = .ok bounds ∧ rule ∈ bounds := by
  rcases validatorsOf_eq_ok.mp derived with ⟨allowed, others, enumerated, ruled, rfl⟩
  rcases List.mem_append.mp member with member | member
  · have family := (enumRules_stated enumerated).family_mem member
    rw [List.mem_singleton.mp family] at isBound
    exact absurd isBound (by decide)
  · cases kind with
    | string =>
        cases ruled
        have family := textRules_stated.family_mem member
        have apart : ∀ family ∈ RuleFamily.ofTexts, family ∉ RuleFamily.ofNumbers := by decide
        exact absurd isBound (apart _ family)
    | int64 => exact ⟨others, ruled, member⟩
    | float64 => exact ⟨others, ruled, member⟩
    | bool =>
        cases ruled
        exact absurd member List.not_mem_nil

theorem isFinite_of_validatorsOf {rules : List Constraint}
    (derived : validatorsOf node kind path = .ok rules) :
    ∀ rule ∈ rules, ∀ literal ∈ rule.literals, literal.IsFinite := by
  intro rule member
  have supported := (validatorsOf_stated derived).supported rule member
  cases rule with
  | oneOf values => exact isFinite_of_oneOf supported
  | atLeast bound =>
      rcases mem_numberRules derived member List.mem_cons_self with ⟨bounds, ruled, found⟩
      exact isFinite_of_numberRules ruled _ found
  | atMost bound =>
      have isBound : RuleFamily.atMost ∈ RuleFamily.ofNumbers := by decide
      rcases mem_numberRules derived member isBound with ⟨bounds, ruled, found⟩
      exact isFinite_of_numberRules ruled _ found
  | _ => exact List.forall_mem_nil _

end Metadata

/-! ## Resolved trees -/

namespace Property

def literals (property : Property) : List Literal :=
  property.default.toList ++ property.validators.flatMap Constraint.literals

def HaveFiniteLiterals (siblings : List Property) : Prop :=
  ∀ property, Within siblings property → ∀ literal ∈ property.literals, literal.IsFinite

theorem HaveFiniteLiterals.of_mem {siblings : List Property} {property : Property}
    (finite : HaveFiniteLiterals siblings) (member : property ∈ siblings) :
    HaveFiniteLiterals [property] := by
  intro other within
  cases within with
  | sibling single =>
      cases List.mem_singleton.mp single
      exact finite property (.sibling member)
  | inside single deeper =>
      cases List.mem_singleton.mp single
      exact finite other (.inside member deeper)

theorem HaveFiniteLiterals.children {property : Property}
    (finite : HaveFiniteLiterals [property]) : HaveFiniteLiterals property.children :=
  fun other deeper => finite other (.inside (List.mem_singleton_self property) deeper)

end Property

namespace Resolver

theorem makesOnly_finite (resolver : Resolver) :
    resolver.MakesOnly fun _ property => ∀ literal ∈ property.literals, literal.IsFinite := by
  intro required path depth name child property resolved literal member
  rcases fieldOf_eq_ok.mp resolved with ⟨type, children, metadata, _, derived, rfl⟩
  change literal ∈
    metadata.default.toList ++ metadata.validators.flatMap Constraint.literals at member
  cases kind? : type.scalarKind? with
  | none =>
      rw [kind?] at derived
      rcases Metadata.derive_compound derived with ⟨defaultless, ruleless⟩
      rw [defaultless, ruleless] at member
      exact absurd member List.not_mem_nil
  | some kind =>
      rw [kind?] at derived
      rcases Metadata.derive_scalar_eq_ok.mp derived with ⟨default, rules, decoded, ruled, rfl⟩
      rcases List.mem_append.mp member with inDefault | inRules
      · exact Metadata.isFinite_of_defaultOf decoded literal (Option.mem_toList.mp inDefault)
      · rcases List.mem_flatMap.mp inRules with ⟨rule, stated, stands⟩
        exact Metadata.isFinite_of_validatorsOf ruled rule stated literal stands

theorem haveFiniteLiterals_of_resolved {resolver : Resolver} {node : SchemaNode} {path : SchemaPath}
    {properties : List Property}
    (resolved : resolver.resolveProperties node path = .ok properties) :
    Property.HaveFiniteLiterals properties := by
  intro property within
  have each := eachField_of_resolveProperties resolver.makesOnly_finite resolved
  rcases each.of_within within with ⟨_, finite⟩
  exact finite

end Resolver

theorem Assembly.haveFiniteLiterals_of_assembled {definition : CustomResourceDefinition}
    {maxDepth : Nat} {document : Document}
    (assembled : assemble definition maxDepth = .ok document) :
    Property.HaveFiniteLiterals (document.specProperties ++ document.statusProperties) := by
  rcases assemble_eq_ok.mp assembled with ⟨version, _, _, specProperties, statusProperties, first,
    split, specResolved, statusResolved, rfl⟩
  intro property within
  rcases Property.within_append_iff.mp within with inSpec | inStatus
  · exact Resolver.haveFiniteLiterals_of_resolved specResolved property inSpec
  · exact Resolver.haveFiniteLiterals_of_resolved statusResolved property inStatus

end CrdCompiler
