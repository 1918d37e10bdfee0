import CrdCompiler.Proofs.FieldTree

/-! # Literals and rules of scalar properties

Only scalars have a default and rules. The rules come in one order of families, each family at most
once and exactly when the schema states it, and every literal in them is of the property's kind.
-/

namespace CrdCompiler

/-- What a rule is about. -/
inductive RuleFamily where
  | oneOf
  | lengthAtLeast
  | lengthAtMost
  | regexMatches
  | base64
  | dateTime
  | atLeast
  | atMost
deriving DecidableEq

namespace RuleFamily

def ofTexts : List RuleFamily := [.lengthAtLeast, .lengthAtMost, .regexMatches, .base64, .dateTime]

def ofNumbers : List RuleFamily := [.atLeast, .atMost]

def canonicalOrder : List RuleFamily := [.oneOf] ++ ofTexts ++ ofNumbers

example : canonicalOrder = [.oneOf, .lengthAtLeast, .lengthAtMost, .regexMatches, .base64,
    .dateTime, .atLeast, .atMost] := rfl

def isStatedBy (node : SchemaNode) (kind : ScalarKind) : RuleFamily → Bool
  | .oneOf => !node.enum.isEmpty
  | .lengthAtLeast => kind = .string && node.minLength.isSome
  | .lengthAtMost => kind = .string && node.maxLength.isSome
  | .regexMatches => kind = .string && node.pattern.any (· ≠ "")
  | .base64 => kind = .string && node.format = some "byte"
  | .dateTime => kind = .string && node.format = some "date-time"
  | .atLeast => (kind = .int64 || kind = .float64) && node.minimum.isSome
  | .atMost => (kind = .int64 || kind = .float64) && node.maximum.isSome

end RuleFamily

namespace Constraint

def family : Constraint → RuleFamily
  | .oneOf _ => .oneOf
  | .lengthAtLeast _ => .lengthAtLeast
  | .lengthAtMost _ => .lengthAtMost
  | .regexMatches _ _ => .regexMatches
  | .base64 => .base64
  | .dateTime => .dateTime
  | .atLeast _ => .atLeast
  | .atMost _ => .atMost

def literals : Constraint → List Literal
  | .oneOf values => values
  | .atLeast bound => [bound]
  | .atMost bound => [bound]
  | _ => []

end Constraint

def SchemaNode.Supports (node : SchemaNode) (kind : ScalarKind) : Constraint → Prop
  | .oneOf values =>
    List.Forall₂ (fun raw value => Literal.ofRaw? kind raw = some value) node.enum values
  | .lengthAtLeast least => node.minLength = some least
  | .lengthAtMost greatest => node.maxLength = some greatest
  | .regexMatches pattern literal => node.pattern = some pattern ∧ literal = Pattern.literal pattern
  | .base64 => node.format = some "byte"
  | .dateTime => node.format = some "date-time"
  | .atLeast bound => node.minimum.isSome ∧ bound.kind = kind
  | .atMost bound => node.maximum.isSome ∧ bound.kind = kind

/-- The rules are of the families that a schema states among the given ones, in their order, and
each rule rests on its keyword. -/
structure RulesStated (node : SchemaNode) (kind : ScalarKind) (families : List RuleFamily)
    (rules : List Constraint) : Prop where
  order : rules.map Constraint.family = families.filter (RuleFamily.isStatedBy node kind)
  supported : ∀ rule ∈ rules, node.Supports kind rule

/-- The default and the rules of a scalar property are those that its schema states. -/
structure ScalarStated (node : SchemaNode) (kind : ScalarKind) (property : Property) : Prop where
  default : Option.Rel (fun raw literal => Literal.ofRaw? kind raw = some literal)
    node.default property.default
  rules : RulesStated node kind RuleFamily.canonicalOrder property.validators
  defaultKind : ∀ literal ∈ property.default, literal.kind = kind
  ruleKinds : ∀ rule ∈ property.validators, ∀ literal ∈ rule.literals, literal.kind = kind

/-- A property says about its values what its schema states, and nothing unless it is a scalar. -/
structure ValuesStated (node : SchemaNode) (property : Property) : Prop where
  compound : (∀ kind, property.type ≠ .scalar kind) →
    property.default = none ∧ property.validators = []
  scalar : ∀ kind, property.type = .scalar kind → ScalarStated node kind property

/-! ## Lists of rules -/

namespace RulesStated

variable {node : SchemaNode} {kind : ScalarKind}

theorem family_mem {families : List RuleFamily} {rules : List Constraint}
    (stated : RulesStated node kind families rules) {rule : Constraint} (member : rule ∈ rules) :
    rule.family ∈ families := by
  have family : rule.family ∈ rules.map Constraint.family := List.mem_map_of_mem member
  rw [stated.order] at family
  exact List.mem_of_mem_filter family

theorem append {firstFamilies secondFamilies : List RuleFamily}
    {first second : List Constraint} (before : RulesStated node kind firstFamilies first)
    (after : RulesStated node kind secondFamilies second) :
    RulesStated node kind (firstFamilies ++ secondFamilies) (first ++ second) where
  order := by rw [List.map_append, List.filter_append, before.order, after.order]
  supported := List.forall_mem_append.mpr ⟨before.supported, after.supported⟩

theorem nil {families : List RuleFamily}
    (unstated : families.filter (RuleFamily.isStatedBy node kind) = []) :
    RulesStated node kind families [] where
  order := unstated.symm
  supported := List.forall_mem_nil _

theorem optional {stated : Option α} {rule : α → Constraint} {family : RuleFamily}
    (named : ∀ value, (rule value).family = family)
    (agrees : family.isStatedBy node kind = stated.isSome)
    (supported : ∀ value ∈ stated, node.Supports kind (rule value)) :
    RulesStated node kind [family] (stated.map rule).toList := by
  cases stated with
  | none =>
      apply RulesStated.nil
      simp [agrees]
  | some value =>
      refine ⟨?_, List.forall_mem_singleton.mpr (supported value rfl)⟩
      simp [agrees, named]

end RulesStated

namespace Metadata

/-! ## Literals of a kind -/

theorem ofRaw?_kind {kind : ScalarKind} {raw : Json} {literal : Literal}
    (decoded : Literal.ofRaw? kind raw = some literal) : literal.kind = kind := by
  unfold Literal.ofRaw? at decoded
  split at decoded
  · cases decoded
    rfl
  · rcases Option.map_eq_some_iff.mp decoded with ⟨word, _, rfl⟩
    rfl
  · cases decoded
    rfl
  · cases decoded
    rfl
  · cases decoded

theorem bound_kind {value : Binary64} {kind : ScalarKind}
    (numeric : kind = .int64 ∨ kind = .float64) {path : SchemaPath} {side : BoundSide}
    {literal : Literal} (bounded : bound value kind path side = .ok literal) :
    literal.kind = kind := by
  rcases numeric with rfl | rfl
  · rcases bound_int64_eq_ok.mp bounded with ⟨number, whole, _, _, _, rfl⟩
    rfl
  · rcases bound_float64_eq_ok.mp bounded with ⟨_, rfl⟩
    rfl

theorem defaultOf_eq_ok {node : SchemaNode} {kind : ScalarKind} {path : SchemaPath}
    {default : Option Literal} :
    defaultOf node kind path = .ok default ↔
      Option.Rel (fun raw literal => Literal.ofRaw? kind raw = some literal)
        node.default default := by
  unfold defaultOf
  cases node.default with
  | none => cases default <;> simp
  | some raw =>
      simp only [Outcome.map_eq_ok, decode_eq_ok]
      cases default <;> simp

theorem defaultOf_kind {node : SchemaNode} {kind : ScalarKind} {path : SchemaPath}
    {default : Option Literal} (decoded : defaultOf node kind path = .ok default) :
    ∀ literal ∈ default, literal.kind = kind := by
  intro literal member
  cases member
  have related := defaultOf_eq_ok.mp decoded
  generalize node.default = stated at related
  cases related with
  | some found => exact ofRaw?_kind found

theorem literal_kind_of_supports {node : SchemaNode} {kind : ScalarKind} {rule : Constraint}
    (supports : node.Supports kind rule) : ∀ literal ∈ rule.literals, literal.kind = kind := by
  cases rule with
  | oneOf values =>
      change List.Forall₂ _ node.enum values at supports
      change ∀ literal ∈ values, literal.kind = kind
      generalize node.enum = raws at supports
      induction supports with
      | nil => exact List.forall_mem_nil _
      | cons decoded _ induction => exact List.forall_mem_cons.mpr ⟨ofRaw?_kind decoded, induction⟩
  | atLeast bound => exact List.forall_mem_singleton.mpr supports.2
  | atMost bound => exact List.forall_mem_singleton.mpr supports.2
  | _ => exact List.forall_mem_nil _

/-! ## Rules of a kind -/

variable {node : SchemaNode} {kind : ScalarKind} {path : SchemaPath}

theorem enumRules_stated {rules : List Constraint}
    (derived : enumRules node kind path = .ok rules) :
    RulesStated node kind [.oneOf] rules := by
  unfold enumRules at derived
  split at derived
  · rename_i empty
    cases derived
    exact .nil (by simp [RuleFamily.isStatedBy, empty])
  · rename_i inhabited
    rcases Outcome.map_eq_ok.mp derived with ⟨values, decoded, rfl⟩
    rw [decodeAll_eq_mapM, Outcome.mapM_eq_ok] at decoded
    refine ⟨?_, List.forall_mem_singleton.mpr ?_⟩
    · simp [RuleFamily.isStatedBy, Constraint.family, inhabited]
    · exact decoded.imp fun _ _ => decode_eq_ok.mp

theorem format_stated : RulesStated node .string [.base64, .dateTime]
    (if node.format = some "byte" then [.base64]
      else if node.format = some "date-time" then [.dateTime] else []) := by
  by_cases byte : node.format = some "byte"
  · rw [if_pos byte]
    refine ⟨?_, List.forall_mem_singleton.mpr byte⟩
    simp [RuleFamily.isStatedBy, Constraint.family, byte]
  rw [if_neg byte]
  by_cases dateTime : node.format = some "date-time"
  · rw [if_pos dateTime]
    refine ⟨?_, List.forall_mem_singleton.mpr dateTime⟩
    simp [RuleFamily.isStatedBy, Constraint.family, dateTime]
  rw [if_neg dateTime]
  exact .nil (by simp [RuleFamily.isStatedBy, byte, dateTime])

theorem textRules_stated : RulesStated node .string RuleFamily.ofTexts (textRules node) := by
  have least : RulesStated node .string [.lengthAtLeast]
      (node.minLength.map .lengthAtLeast).toList :=
    .optional (fun _ => rfl) rfl fun _ stated => stated
  have greatest : RulesStated node .string [.lengthAtMost]
      (node.maxLength.map .lengthAtMost).toList :=
    .optional (fun _ => rfl) rfl fun _ stated => stated
  have pattern : RulesStated node .string [.regexMatches]
      ((node.pattern.filter (· ≠ "")).map fun pattern =>
        .regexMatches pattern (Pattern.literal pattern)).toList := by
    refine .optional (fun _ => rfl) (by simp [RuleFamily.isStatedBy]) ?_
    intro pattern stated
    exact ⟨(Option.filter_eq_some_iff.mp stated).1, rfl⟩
  exact ((least.append greatest).append pattern).append format_stated

theorem movedBound_eq_ok {stated : Option Binary64} {move : Binary64 → Binary64}
    (numeric : kind = .int64 ∨ kind = .float64) {side : BoundSide} {moved : Option Literal}
    (bounded : movedBound stated move kind path side = .ok moved) :
    stated.isSome = moved.isSome ∧ ∀ literal ∈ moved, literal.kind = kind := by
  unfold movedBound at bounded
  cases stated with
  | none =>
      cases bounded
      refine ⟨rfl, ?_⟩
      intro literal member
      cases member
  | some value =>
      rcases Outcome.map_eq_ok.mp bounded with ⟨literal, found, rfl⟩
      refine ⟨rfl, ?_⟩
      intro literal' member
      cases member
      exact bound_kind numeric found

theorem numberRules_stated (numeric : kind = .int64 ∨ kind = .float64) {rules : List Constraint}
    (derived : numberRules node kind path = .ok rules) :
    RulesStated node kind RuleFamily.ofNumbers rules := by
  rcases numberRules_eq_ok.mp derived with ⟨least, greatest, lower, upper, rfl⟩
  rcases movedBound_eq_ok numeric lower with ⟨lowerStated, lowerKind⟩
  rcases movedBound_eq_ok numeric upper with ⟨upperStated, upperKind⟩
  have numberKind : (kind = .int64 || kind = .float64) = true := by simpa using numeric
  have minimum : RulesStated node kind [.atLeast] (least.map .atLeast).toList := by
    refine .optional (fun _ => rfl) ?_ ?_
    · rw [RuleFamily.isStatedBy, numberKind, Bool.true_and, lowerStated]
    · intro bound member
      exact ⟨lowerStated.trans (by rw [member]; rfl), lowerKind bound member⟩
  have maximum : RulesStated node kind [.atMost] (greatest.map .atMost).toList := by
    refine .optional (fun _ => rfl) ?_ ?_
    · rw [RuleFamily.isStatedBy, numberKind, Bool.true_and, upperStated]
    · intro bound member
      exact ⟨upperStated.trans (by rw [member]; rfl), upperKind bound member⟩
  exact minimum.append maximum

theorem kindRules_stated {rules : List Constraint}
    (derived : kindRules node kind path = .ok rules) :
    RulesStated node kind (RuleFamily.ofTexts ++ RuleFamily.ofNumbers) rules := by
  cases kind with
  | string =>
      cases derived
      rw [← List.append_nil (textRules node)]
      exact textRules_stated.append (.nil rfl)
  | int64 => exact (RulesStated.nil rfl).append (numberRules_stated (.inl rfl) derived)
  | float64 => exact (RulesStated.nil rfl).append (numberRules_stated (.inr rfl) derived)
  | bool =>
      cases derived
      exact .nil rfl

theorem validatorsOf_stated {rules : List Constraint}
    (derived : validatorsOf node kind path = .ok rules) :
    RulesStated node kind RuleFamily.canonicalOrder rules := by
  rcases validatorsOf_eq_ok.mp derived with ⟨allowed, others, enumerated, ruled, rfl⟩
  exact (enumRules_stated enumerated).append (kindRules_stated ruled)

theorem derive_compound {required : Bool} {metadata : Metadata}
    (derived : derive node required none path = .ok metadata) :
    metadata.default = none ∧ metadata.validators = [] := by
  have made := Except.ok.inj derived
  rw [← made]
  exact ⟨rfl, rfl⟩

end Metadata

/-! ## Resolved trees -/

namespace Resolver

theorem makesOnly_valuesStated (resolver : Resolver) : resolver.MakesOnly ValuesStated := by
  intro required path depth name child property resolved
  rcases fieldOf_eq_ok.mp resolved with ⟨type, children, metadata, shaped, derived, rfl⟩
  constructor
  · intro compound
    have noKind : type.scalarKind? = none := by
      cases type with
      | scalar kind => exact absurd rfl (compound kind)
      | _ => rfl
    rw [noKind] at derived
    exact Metadata.derive_compound derived
  · intro kind isScalar
    change type = .scalar kind at isScalar
    cases isScalar
    rcases Metadata.derive_scalar_eq_ok.mp derived with ⟨default, rules, decoded, validated, rfl⟩
    have stated := Metadata.validatorsOf_stated validated
    exact {
      default := Metadata.defaultOf_eq_ok.mp decoded
      rules := stated
      defaultKind := Metadata.defaultOf_kind decoded
      ruleKinds := by
        intro rule member
        exact Metadata.literal_kind_of_supports (stated.supported rule member) }

/-- Every property of a resolved tree says about its values exactly what its schema states, by
literals of its own kind and by rules in canonical order. -/
theorem valuesStated_throughout {resolver : Resolver} {node : SchemaNode} {path : SchemaPath}
    {properties : List Property}
    (resolved : resolver.resolveProperties node path = .ok properties) :
    node.EachField ValuesStated properties :=
  eachField_of_resolveProperties resolver.makesOnly_valuesStated resolved

/-- A map whose values have a port with bounds and a protocol with choices; the map's own default
counts for nothing. -/
def listenersSchema : SchemaNode where
  properties := [("listeners", {
    type := some "object"
    default := some (.array [])
    additionalProperties := .schema {
      type := some "object"
      properties := [
        ("protocol", {
          type := some "string"
          format := some "byte"
          minLength := some 3
          pattern := some ""
          default := some (.string "TCP")
          enum := [.string "TCP", .string "UDP"] }),
        ("port", {
          type := some "integer"
          maximum := some (.ofInt 65536)
          exclusiveMaximum := true
          minimum := some (.ofInt 1023)
          exclusiveMinimum := true })] } })]

theorem listenersSchema_valuesStated :
    ∃ properties, resolveProperties ⟨false, 2⟩ listenersSchema (.root "spec") = .ok properties ∧
      properties.map (·.default) = [none] ∧
      ((properties.flatMap (·.children)).map fun field =>
        (field.name, field.default, field.validators)) = [
          ("port", none, [.atLeast (.int64 1024), .atMost (.int64 65535)]),
          ("protocol", some (.string "TCP"),
            [.oneOf [.string "TCP", .string "UDP"], .lengthAtLeast 3, .base64])] ∧
      listenersSchema.EachField ValuesStated properties := by
  have descending (protocol port : Property) (first : protocol.name = "protocol")
      (second : port.name = "port") :
      Property.sortSiblings [protocol, port] = [port, protocol] := by
    simp [Property.sortSiblings, List.mergeSort, List.MergeSort.Internal.splitInTwo, first, second]
  have resolved : resolveProperties ⟨false, 2⟩ listenersSchema (.root "spec") = .ok _ := rfl
  refine ⟨_, resolved, ?_, ?_, valuesStated_throughout resolved⟩
  · rw [Property.sortSiblings, List.mergeSort_singleton]
    rfl
  · rw [descending _ _ rfl rfl, Property.sortSiblings, List.mergeSort_singleton]
    decide +kernel

end Resolver

end CrdCompiler
