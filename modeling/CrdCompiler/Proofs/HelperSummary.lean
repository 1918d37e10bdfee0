import CrdCompiler.Proofs.Assembling
import CrdCompiler.Proofs.HelperFlags
import CrdCompiler.Proofs.Validators

/-! # Helper summaries of documents

The flags of defaults go by the kind of the literal, those of validators by the kind of the
property. In a document both are the same, since literals have the kind of their property, and so
its summary says exactly what is there.
-/

namespace CrdCompiler

namespace TypeDescriptor

theorem scalarKind?_eq_some_iff {type : TypeDescriptor} {kind : ScalarKind} :
    type.scalarKind? = some kind ↔ type = .scalar kind := by
  cases type <;> simp [scalarKind?]

end TypeDescriptor

namespace HelperSet

/-! ## Flags of a single property -/

theorem defaultsOf_ofDefault (kind kind' : ScalarKind) :
    (ofDefault kind).defaultsOf kind' ↔ kind = kind' := by
  cases kind <;> cases kind' <;> decide

theorem validatorOf_ofDefault (kind kind' : ScalarKind) :
    (ofDefault kind).validatorOf kind' = false := by
  cases kind <;> cases kind' <;> rfl

theorem defaultsOf_ofValidator (kind kind' : ScalarKind) :
    (ofValidator kind).defaultsOf kind' = false := by
  cases kind <;> cases kind' <;> rfl

theorem validatorOf_ofValidator (kind kind' : ScalarKind) :
    (ofValidator kind).validatorOf kind' ↔ kind = kind' := by
  cases kind <;> cases kind' <;> decide

theorem ofConstraint_of_ordinary (type : TypeDescriptor) {rule : Constraint}
    (notBase64 : rule ≠ .base64) (notDateTime : rule ≠ .dateTime) :
    ofConstraint type rule = (type.scalarKind?.map ofValidator).getD none := by
  unfold ofConstraint
  split
  · exact absurd rfl notBase64
  · exact absurd rfl notDateTime
  · cases type.scalarKind? <;> rfl

theorem defaultsOf_ofConstraint (type : TypeDescriptor) (rule : Constraint) (kind : ScalarKind) :
    (ofConstraint type rule).defaultsOf kind = false := by
  by_cases base64 : rule = .base64
  · subst rule
    cases kind <;> rfl
  by_cases dateTime : rule = .dateTime
  · subst rule
    cases kind <;> rfl
  rw [ofConstraint_of_ordinary type base64 dateTime]
  cases type.scalarKind? with
  | none => exact (isFlag_defaultsOf kind).none
  | some own => exact defaultsOf_ofValidator own kind

theorem validatorOf_ofConstraint (type : TypeDescriptor) (rule : Constraint) (kind : ScalarKind) :
    (ofConstraint type rule).validatorOf kind ↔
      (rule ≠ .base64 ∧ rule ≠ .dateTime) ∧ type.scalarKind? = some kind := by
  by_cases base64 : rule = .base64
  · subst rule
    cases kind <;> simp [ofConstraint, validatorOf]
  by_cases dateTime : rule = .dateTime
  · subst rule
    cases kind <;> simp [ofConstraint, validatorOf]
  rw [ofConstraint_of_ordinary type base64 dateTime]
  cases type.scalarKind? with
  | none => simp [(isFlag_validatorOf kind).none]
  | some own => simp [base64, dateTime, validatorOf_ofValidator]

theorem special_ofConstraint (type : TypeDescriptor) (rule : Constraint) :
    ((ofConstraint type rule).validatorBase64 ↔ rule = .base64) ∧
      ((ofConstraint type rule).validatorDateTime ↔ rule = .dateTime) := by
  by_cases base64 : rule = .base64
  · subst rule
    simp [ofConstraint]
  by_cases dateTime : rule = .dateTime
  · subst rule
    simp [ofConstraint]
  rw [ofConstraint_of_ordinary type base64 dateTime]
  cases type.scalarKind? with
  | none => simp [none, base64, dateTime]
  | some own => cases own <;> simp [ofValidator, base64, dateTime]

theorem defaultsOf_ofOwn (property : Property) (kind : ScalarKind) :
    (ofOwn property).defaultsOf kind ↔ ∃ literal ∈ property.default, literal.kind = kind := by
  have isFlag := isFlag_defaultsOf kind
  have noRule : (property.validators.any fun rule =>
      (ofConstraint property.type rule).defaultsOf kind) = false :=
    List.any_eq_false.mpr fun rule _ => by simp [defaultsOf_ofConstraint]
  rw [ofOwn, isFlag.union, isFlag.ofConstraints, noRule, Bool.or_false]
  cases property.default with
  | none => simp [isFlag.none]
  | some literal => simp [defaultsOf_ofDefault]

theorem IsFlag.ofOwn_iff {flag : HelperSet → Bool} (isFlag : IsFlag flag)
    (noDefault : ∀ kind, flag (ofDefault kind) = false) (property : Property) :
    flag (ofOwn property) ↔
      ∃ rule ∈ property.validators, flag (ofConstraint property.type rule) := by
  rw [ofOwn, isFlag.union, isFlag.ofConstraints]
  cases property.default with
  | none => simp [isFlag.none]
  | some literal => simp [noDefault]

theorem validatorOf_ofOwn (property : Property) (kind : ScalarKind) :
    (ofOwn property).validatorOf kind ↔ property.type = .scalar kind ∧
      ∃ rule ∈ property.validators, rule ≠ .base64 ∧ rule ≠ .dateTime := by
  rw [(isFlag_validatorOf kind).ofOwn_iff fun kind' => validatorOf_ofDefault kind' kind]
  simp only [validatorOf_ofConstraint, TypeDescriptor.scalarKind?_eq_some_iff]
  tauto

theorem special_ofOwn (property : Property) :
    ((ofOwn property).validatorBase64 ↔ .base64 ∈ property.validators) ∧
      ((ofOwn property).validatorDateTime ↔ .dateTime ∈ property.validators) := by
  rw [isFlag_validatorBase64.ofOwn_iff fun kind => by cases kind <;> rfl,
    isFlag_validatorDateTime.ofOwn_iff fun kind => by cases kind <;> rfl]
  simp [special_ofConstraint]

end HelperSet

/-! ## Documents -/

/-- The kind of a default is that of its property, and only scalars have rules. -/
structure Property.WellKinded (property : Property) : Prop where
  default : ∀ literal ∈ property.default, property.type = .scalar literal.kind
  rules : property.validators ≠ [] → ∃ kind, property.type = .scalar kind

theorem ValuesStated.wellKinded {node : SchemaNode} {property : Property}
    (stated : ValuesStated node property) : property.WellKinded := by
  by_cases isScalar : ∃ kind, property.type = .scalar kind
  · rcases isScalar with ⟨kind, isScalar⟩
    refine ⟨?_, fun _ => ⟨kind, isScalar⟩⟩
    intro literal member
    rw [isScalar, (stated.scalar kind isScalar).defaultKind literal member]
  · rcases stated.compound (not_exists.mp isScalar) with ⟨noDefault, noRules⟩
    refine ⟨?_, fun some => absurd noRules some⟩
    intro literal member
    rw [noDefault] at member
    cases member

namespace HelperSet

open Property

/-- Each flag of the summary says whether the tree has, at any depth, what the flag stands for. -/
structure Summarizes (helpers : HelperSet) (properties : List Property) : Prop where
  defaults : ∀ kind, helpers.defaultsOf kind ↔ ∃ property, Within properties property ∧
    property.type = .scalar kind ∧ property.default.isSome
  validators : ∀ kind, helpers.validatorOf kind ↔ ∃ property, Within properties property ∧
    property.type = .scalar kind ∧ ∃ rule ∈ property.validators, rule ≠ .base64 ∧ rule ≠ .dateTime
  base64 : helpers.validatorBase64 ↔ ∃ property, Within properties property ∧
    .base64 ∈ property.validators
  dateTime : helpers.validatorDateTime ↔ ∃ property, Within properties property ∧
    .dateTime ∈ property.validators
  empty : helpers.isEmpty ↔ ∀ property, Within properties property →
    property.default = .none ∧ property.validators = []

theorem ofOwn_eq_none_iff {property : Property} (kinded : property.WellKinded) :
    ofOwn property = none ↔ property.default = .none ∧ property.validators = [] := by
  constructor
  · intro empty
    constructor
    · rw [Option.eq_none_iff_forall_ne_some]
      intro literal some
      have set := (defaultsOf_ofOwn property literal.kind).mpr ⟨literal, some, rfl⟩
      rw [empty, (isFlag_defaultsOf literal.kind).none] at set
      cases set
    · rw [List.eq_nil_iff_forall_not_mem]
      intro rule member
      rcases kinded.rules (List.ne_nil_of_mem member) with ⟨kind, isScalar⟩
      by_cases special : rule = .base64 ∨ rule = .dateTime
      · rcases special with rfl | rfl
        · have set := (special_ofOwn property).1.mpr member
          rw [empty] at set
          cases set
        · have set := (special_ofOwn property).2.mpr member
          rw [empty] at set
          cases set
      · have set := (validatorOf_ofOwn property kind).mpr
          ⟨isScalar, rule, member, not_or.mp special⟩
        rw [empty, (isFlag_validatorOf kind).none] at set
        cases set
  · intro holds
    rcases holds with ⟨noDefault, noRules⟩
    rw [ofOwn, noDefault, noRules]
    rfl

theorem defaultsOf_ofOwn_kinded {property : Property} (kinded : property.WellKinded)
    (kind : ScalarKind) :
    (ofOwn property).defaultsOf kind ↔ property.type = .scalar kind ∧ property.default.isSome := by
  rw [defaultsOf_ofOwn]
  constructor
  · intro holds
    rcases holds with ⟨literal, member, rfl⟩
    exact ⟨kinded.default literal member, by rw [member]; rfl⟩
  · intro holds
    rcases holds with ⟨isScalar, stated⟩
    rcases Option.isSome_iff_exists.mp stated with ⟨literal, member⟩
    have sameKind := (kinded.default literal member).symm.trans isScalar
    exact ⟨literal, member, TypeDescriptor.scalar.inj sameKind⟩

theorem summarizes_ofProperties {properties : List Property}
    (kinded : ∀ property, Within properties property → property.WellKinded) :
    (ofProperties properties).Summarizes properties where
  defaults kind := by
    rw [(isFlag_defaultsOf kind).ofProperties_iff]
    exact exists_congr fun property => and_congr_right fun within =>
      defaultsOf_ofOwn_kinded (kinded property within) kind
  validators kind := by
    rw [(isFlag_validatorOf kind).ofProperties_iff]
    exact exists_congr fun property => and_congr_right fun _ => validatorOf_ofOwn property kind
  base64 := by
    rw [isFlag_validatorBase64.ofProperties_iff]
    exact exists_congr fun property => and_congr_right fun _ => (special_ofOwn property).1
  dateTime := by
    rw [isFlag_validatorDateTime.ofProperties_iff]
    exact exists_congr fun property => and_congr_right fun _ => (special_ofOwn property).2
  empty := by
    rw [isEmpty, decide_eq_true_iff, ofProperties_eq_none_iff]
    exact forall_congr' fun property => forall_congr' fun within =>
      ofOwn_eq_none_iff (kinded property within)

end HelperSet

namespace Property

theorem within_append_iff {siblings others : List Property} {property : Property} :
    Within (siblings ++ others) property ↔ Within siblings property ∨ Within others property := by
  constructor
  · intro within
    cases within with
    | sibling member => exact (List.mem_append.mp member).imp .sibling .sibling
    | inside member deeper =>
        exact (List.mem_append.mp member).imp (.inside · deeper) (.inside · deeper)
  · intro holds
    rcases holds with within | within
    · cases within with
      | sibling member => exact .sibling (List.mem_append_left _ member)
      | inside member deeper => exact .inside (List.mem_append_left _ member) deeper
    · cases within with
      | sibling member => exact .sibling (List.mem_append_right _ member)
      | inside member deeper => exact .inside (List.mem_append_right _ member) deeper

end Property

namespace Assembly

open HelperSet Property Resolver

theorem wellKinded_of_resolved {resolver : Resolver} {node : SchemaNode} {path : SchemaPath}
    {properties : List Property}
    (resolved : resolver.resolveProperties node path = .ok properties) {property : Property}
    (within : Within properties property) : property.WellKinded := by
  rcases (Resolver.valuesStated_throughout resolved).of_within within with ⟨_, stated⟩
  exact stated.wellKinded

/-- The summary of a document says exactly what its two trees need. A summary of several trees is
the union of their summaries, whatever the order and repetition in them. -/
theorem helpers_exact (maxDepth : Nat) :
    (∀ definition document, assemble definition maxDepth = .ok document →
      document.helpers.Summarizes (document.specProperties ++ document.statusProperties)) ∧
    (∀ trees others, collect (trees ++ others) = (collect trees).union (collect others)) ∧
    (∀ tree other, collect [tree ++ other] = (collect [tree]).union (collect [other])) ∧
    ∀ trees others, RearrangedTrees trees others → collect trees = collect others := by
  refine ⟨?_, collect_append, collect_joined, fun _ _ => collect_rearranged⟩
  intro definition document assembled
  rcases assemble_eq_ok.mp assembled with ⟨version, _, _, specProperties, statusProperties, first,
    split, specResolved, statusResolved, rfl⟩
  change (collect [specProperties, statusProperties]).Summarizes
    (specProperties ++ statusProperties)
  rw [collect_eq, List.flatten_cons, List.flatten_singleton]
  apply summarizes_ofProperties
  intro property within
  rcases within_append_iff.mp within with inSpec | inStatus
  · exact wellKinded_of_resolved specResolved inSpec
  · exact wellKinded_of_resolved statusResolved inStatus

/-- A spec with a list of endpoints, whose host has a default and is written in base 64 and whose
port has one value, and a status with an instant. -/
def endpointsDefinition : CustomResourceDefinition where
  apiVersion := none
  kind := none
  group := "example.org"
  names := ⟨"Endpoint", "endpoints"⟩
  versions := [⟨"v1", some {
    properties := [
      ("spec", {
        type := some "object"
        properties := [("endpoints", {
          type := some "array"
          items := some {
            type := some "object"
            properties := [
              ("host", {
                type := some "string"
                format := some "byte"
                default := some (.string "bG9jYWw=") }),
              ("port", {
                type := some "integer"
                enum := [.number (.integer ⟨443, by decide⟩)] })] } })] }),
      ("status", {
        type := some "object"
        properties := [("since", { type := some "string", format := some "date-time" })] })] }⟩]

theorem endpointsDefinition_summarized :
    ∃ document, assemble endpointsDefinition 2 = .ok document ∧
      document.helpers = {
        defaultsString := true, validatorInt64 := true, validatorBase64 := true,
        validatorDateTime := true } ∧
      document.helpers.Summarizes (document.specProperties ++ document.statusProperties) ∧
      ∀ parent ∈ document.specProperties,
        let reversed := { parent with children := parent.children.reverse ++ parent.children }
        collect [[parent]] = collect [[reversed], [reversed]] := by
  have assembled : ∃ document, assemble endpointsDefinition 2 = .ok document := ⟨_, rfl⟩
  rcases assembled with ⟨document, assembled⟩
  refine ⟨document, assembled, ?_, (helpers_exact 2).1 _ _ assembled, ?_⟩
  · cases assembled
    simp only [document, collect_eq, List.flatten_cons, List.flatten_nil, List.append_nil,
      ofProperties_append, ofProperties_sortSiblings, ofProperties, ofProperty_eq, propertyOf]
    decide +kernel
  · intro parent _ reversed
    have rearranged : Rearranged [parent] [reversed] :=
      .inside [] [] parent (fun _ => Iff.rfl) (.siblings fun child => by simp)
    apply (helpers_exact 2).2.2.2
    constructor
    · intro tree member
      cases List.mem_singleton.mp member
      exact ⟨_, List.mem_cons_self, rearranged⟩
    · intro other member
      have same : other = [reversed] := by simpa using member
      exact ⟨_, List.mem_singleton_self _, same ▸ rearranged⟩

end Assembly

end CrdCompiler
