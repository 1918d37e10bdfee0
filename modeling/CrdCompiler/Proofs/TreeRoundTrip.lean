import CrdCompiler.Proofs.FiniteLiterals
import CrdCompiler.Proofs.MemberOrder

/-! # Property trees read back

The JSON form of a property tree loses nothing: a tree whose literals are finite is read back from
it as it was, whatever order the members of its objects are kept in, and compiled trees have finite
literals only.
-/

namespace CrdCompiler

open Json

variable {depth : Nat}

/-! ## Literals -/

theorem ScalarKind.toJson_readAs (kind : ScalarKind) :
    kind.toJson.ReadAs depth ofContent? kind := by
  apply ReadAs.leaf rfl
  cases kind <;> rfl

theorem Literal.toRaw_readAs {literal : Literal} (finite : literal.IsFinite) :
    literal.toRaw.ReadAs depth (ofContentAs? literal.kind) literal := by
  cases literal with
  | string text => exact .leaf rfl rfl
  | int64 number =>
      apply ReadAs.leaf rfl
      exact congrArg (Option.map Literal.int64) (Integer64.toInt64?_ofInt64 number)
  | float64 number =>
      rcases finite number rfl with ⟨value, rfl⟩
      exact .leaf rfl rfl
  | bool value => exact .leaf rfl rfl

theorem Literal.toJson_readAs {literal : Literal} (finite : literal.IsFinite) :
    literal.toJson.ReadAs depth ofContent? literal := by
  have distinct : ["kind", "value"].Nodup := by decide
  intro json' same deep
  rcases same.filledBy [("kind", some literal.kind.toJson), ("value", some literal.toRaw)] distinct
    (deep.trans (Nat.le_succ _)) with ⟨members, rfl, held⟩
  have read : Fields.read (m := Option) ["kind", "value"] (.ofJson (.object members)) =
      some (FilledBy.fields members) := held.read
  have kind : (FilledBy.fields members).needed "kind" ScalarKind.ofContent? = some literal.kind :=
    held.needed List.mem_cons_self literal.kind.toJson_readAs
  have value : (FilledBy.fields members).needed "value" (ofContentAs? literal.kind) =
      some literal :=
    held.needed (List.mem_cons_of_mem _ List.mem_cons_self) (toRaw_readAs finite)
  rw [ofContent?, read]
  simp only [Option.bind_eq_bind, Option.bind_some, kind, value]

/-! ## Shapes -/

namespace TypeDescriptor

theorem ofNested?_toJson (type : TypeDescriptor) :
    type.toJson.ReadAs depth (ofNested? depth) type := by
  induction type generalizing depth with
  | scalar kind =>
      apply ReadAs.nested
      intro below
      apply ReadAs.taggedField "shape" "scalar" "kind" (by decide) kind.toJson_readAs
      intro content rest tagged
      rw [ofNested?, tagged]
      rfl
  | map values induction =>
      apply ReadAs.nested
      intro below
      apply ReadAs.taggedField "shape" "map" "value_type" (by decide) induction
      intro content rest tagged
      rw [ofNested?, tagged]
      rfl
  | struct =>
      apply ReadAs.nested
      intro below
      apply ReadAs.tagged "shape" "struct" [] (by simp)
      intro rest _ content tagged
      rw [ofNested?, tagged]
      rfl
  | array elements induction =>
      apply ReadAs.nested
      intro below
      apply ReadAs.taggedField "shape" "array" "element_type" (by decide) induction
      intro content rest tagged
      rw [ofNested?, tagged]
      rfl

theorem toJson_readAs (type : TypeDescriptor) : type.toJson.ReadAs depth ofContent? type := by
  intro json' same _
  exact type.ofNested?_toJson json' same le_rfl

end TypeDescriptor

/-! ## Rules -/

theorem Constraint.wordJson_readAs (word : UInt64) :
    (wordJson word).ReadAs depth Source.unsigned word :=
  .leaf rfl (Integer64.toUInt64?_ofUInt64 word)

theorem Constraint.toJson_readAs {rule : Constraint}
    (finite : ∀ literal ∈ rule.literals, literal.IsFinite) :
    rule.toJson.ReadAs depth ofContent? rule := by
  suffices deeper : rule.toJson.ReadAs (depth + 1) ofContent? rule by
    intro json' same deep
    exact deeper json' same (deep.trans (Nat.le_succ _))
  cases rule with
  | oneOf values =>
      have items : (Json.array (values.map Literal.toJson)).ReadAs depth
          (readItems Literal.ofContent?) values :=
        .array fun literal member => Literal.toJson_readAs (finite literal member)
      apply ReadAs.taggedField "rule" "one_of" "values" (by decide) items
      intro content rest tagged
      rw [ofContent?, tagged]
      rfl
  | lengthAtLeast least =>
      apply ReadAs.taggedField "rule" "length_at_least" "min" (by decide) (wordJson_readAs least)
      intro content rest tagged
      rw [ofContent?, tagged]
      rfl
  | lengthAtMost greatest =>
      apply ReadAs.taggedField "rule" "length_at_most" "max" (by decide) (wordJson_readAs greatest)
      intro content rest tagged
      rw [ofContent?, tagged]
      rfl
  | regexMatches pattern literal =>
      apply ReadAs.tagged "rule" "regex_matches"
        [("pattern", some (.string pattern)), ("literal", some (.string literal))] (by simp)
      intro rest held content tagged
      have read : Fields.read (m := Option) ["pattern", "literal"] (.ofJson (.object rest)) =
          some (FilledBy.fields rest) := held.read
      have first : (FilledBy.fields rest).needed "pattern" Source.text = some pattern :=
        held.needed List.mem_cons_self (.leaf rfl rfl)
      have second : (FilledBy.fields rest).needed "literal" Source.text = some literal :=
        held.needed (List.mem_cons_of_mem _ List.mem_cons_self) (.leaf rfl rfl)
      rw [ofContent?, tagged]
      simp only [Option.bind_eq_bind, Option.bind_some, read, first, second]
      rfl
  | base64 =>
      apply ReadAs.tagged "rule" "base64" [] (by simp)
      intro rest _ content tagged
      rw [ofContent?, tagged]
      rfl
  | dateTime =>
      apply ReadAs.tagged "rule" "date_time" [] (by simp)
      intro rest _ content tagged
      rw [ofContent?, tagged]
      rfl
  | atLeast bound =>
      have bounded : bound.toJson.ReadAs depth Literal.ofContent? bound :=
        Literal.toJson_readAs (finite bound List.mem_cons_self)
      apply ReadAs.taggedField "rule" "at_least" "bound" (by decide) bounded
      intro content rest tagged
      rw [ofContent?, tagged]
      rfl
  | atMost bound =>
      have bounded : bound.toJson.ReadAs depth Literal.ofContent? bound :=
        Literal.toJson_readAs (finite bound List.mem_cons_self)
      apply ReadAs.taggedField "rule" "at_most" "bound" (by decide) bounded
      intro content rest tagged
      rw [ofContent?, tagged]
      rfl

/-! ## Properties -/

namespace Property

def slots (property : Property) : List (String × Option Json) := [
  ("name", some (.string property.name)),
  ("normalizedName", some (.string property.normalizedName)),
  ("attributeName", some (.string property.attributeName)),
  ("description", some (.string property.description)),
  ("type", some property.type.toJson),
  ("required", some (.bool property.required)),
  ("optional", some (.bool property.optional)),
  ("computed", some (.bool property.computed)),
  ("immutable", some (.bool property.immutable)),
  ("default", property.default.map Literal.toJson),
  ("validators", some (.array (property.validators.map Constraint.toJson))),
  ("children", some (.array (property.children.map toJson)))]

theorem slots_distinct (property : Property) : (property.slots.map Prod.fst).Nodup := by
  have distinct : fieldNames.Nodup := by decide
  exact distinct

theorem listToJson_eq_map (properties : List Property) :
    listToJson properties = properties.map toJson := by
  induction properties with
  | nil => rfl
  | cons property rest induction => rw [listToJson, induction, List.map_cons]

theorem toJson_eq (property : Property) : property.toJson = .object (filled property.slots) := by
  rw [toJson.eq_def]
  cases property with
  | mk name normalizedName attributeName description type required optional computed immutable
      default validators children =>
      dsimp only
      rw [listToJson_eq_map]
      cases default <;> rfl

theorem toJson_readAs_succ {property : Property}
    (finite : ∀ literal ∈ property.literals, literal.IsFinite)
    (below : ∀ child ∈ property.children, child.toJson.ReadAs depth (ofNested? depth) child) :
    property.toJson.ReadAs (depth + 1) (ofNested? (depth + 1)) property := by
  intro json' same deep
  rw [toJson_eq] at same
  rcases same.filledBy _ property.slots_distinct deep with ⟨members, rfl, held⟩
  have read : Fields.read (m := Option) fieldNames (.ofJson (.object members)) =
      some (FilledBy.fields members) := held.read
  have text : ∀ name value, (name, some (.string value)) ∈ property.slots →
      (FilledBy.fields members).needed name Source.text = some value :=
    fun _ _ slot => held.needed slot (.leaf rfl rfl)
  have flag : ∀ name value, (name, some (.bool value)) ∈ property.slots →
      (FilledBy.fields members).needed name Source.flag = some value :=
    fun _ _ slot => held.needed slot (.leaf rfl rfl)
  have type : (FilledBy.fields members).needed "type" TypeDescriptor.ofContent? =
      some property.type := held.needed (by simp [slots]) property.type.toJson_readAs
  have default : (FilledBy.fields members).get? "default" Literal.ofContent? =
      some property.default := by
    have slot : ("default", property.default.map Literal.toJson) ∈ property.slots := by
      simp [slots]
    refine held.get? slot (fun _ _ => nofun) ?_
    intro literal stated
    exact Literal.toJson_readAs (finite literal (by simp [literals, Option.mem_def.mp stated]))
  have validators : (FilledBy.fields members).getD "validators" []
      (readItems Constraint.ofContent?) = some property.validators := by
    have slot : ("validators", some (.array (property.validators.map Constraint.toJson))) ∈
        property.slots := by simp [slots]
    refine held.getD slot [] (.array ?_)
    intro rule stated
    refine Constraint.toJson_readAs fun literal stands => finite literal ?_
    exact List.mem_append_right _ (List.mem_flatMap.mpr ⟨rule, stated, stands⟩)
  have children : (FilledBy.fields members).getD "children" [] (readItems (ofNested? depth)) =
      some property.children := by
    have slot : ("children", some (.array (property.children.map toJson))) ∈ property.slots := by
      simp [slots]
    exact held.getD slot [] (.array below)
  have name := text "name" property.name (by simp [slots])
  have normalizedName := text "normalizedName" property.normalizedName (by simp [slots])
  have attributeName := text "attributeName" property.attributeName (by simp [slots])
  have description := text "description" property.description (by simp [slots])
  have required := flag "required" property.required (by simp [slots])
  have optional := flag "optional" property.optional (by simp [slots])
  have computed := flag "computed" property.computed (by simp [slots])
  have immutable := flag "immutable" property.immutable (by simp [slots])
  rw [ofNested?, read]
  simp only [Option.bind_eq_bind, Option.bind_some, name, normalizedName, attributeName,
    description, type, required, optional, computed, immutable, default, validators, children]
  cases property
  rfl

theorem toJson_readAs (property : Property) (finite : HaveFiniteLiterals [property]) {depth : Nat} :
    property.toJson.ReadAs depth (ofNested? depth) property := by
  rw [toJson_eq]
  apply ReadAs.nested
  intro below
  rw [← toJson_eq]
  refine toJson_readAs_succ (finite property (.sibling List.mem_cons_self)) ?_
  intro child member
  exact child.toJson_readAs (finite.children.of_mem member)
termination_by sizeOf property
decreasing_by
  have smaller := List.sizeOf_lt_of_mem member
  cases property
  simp only [Property.mk.sizeOf_spec] at smaller ⊢
  omega

theorem ofContent?_toJson {property : Property} (finite : HaveFiniteLiterals [property])
    {json : Json} (same : property.toJson.Reordered json) :
    ofContent? (.ofJson json) = some property :=
  property.toJson_readAs finite json same le_rfl

/-- The JSON form of a tree of finite literals tells the tree, in whatever order its members are
kept, and the trees of every compiled document are such trees. -/
theorem trees_survive_json :
    (∀ (property : Property) (json : Json), HaveFiniteLiterals [property] →
      property.toJson.Reordered json → ofContent? (.ofJson json) = some property) ∧
    (∀ (left right : Property) (json : Json), HaveFiniteLiterals [left] →
      HaveFiniteLiterals [right] → left.toJson.Reordered json → right.toJson.Reordered json →
      left = right) ∧
    ∀ (definition : CustomResourceDefinition) (maxDepth : Nat) (document : Document),
      assemble definition maxDepth = .ok document →
        HaveFiniteLiterals (document.specProperties ++ document.statusProperties) ∧
        ∀ property ∈ document.specProperties ++ document.statusProperties,
          ofContent? (.ofJson property.toJson) = some property := by
  refine ⟨fun property json finite same => ofContent?_toJson finite same, ?_, ?_⟩
  · intro left right json finite finite' same same'
    exact Option.some.inj
      ((ofContent?_toJson finite same).symm.trans (ofContent?_toJson finite' same'))
  · intro definition maxDepth document assembled
    have finite := Assembly.haveFiniteLiterals_of_assembled assembled
    exact ⟨finite, fun property member => ofContent?_toJson (finite.of_mem member) (.refl _)⟩

/-- A list of samplers, each with a bounded fraction. -/
def samplersDefinition : CustomResourceDefinition where
  apiVersion := none
  kind := none
  group := "example.org"
  names := ⟨"Sampler", "samplers"⟩
  versions := [⟨"v1", some {
    properties := [
      ("spec", {
        type := some "object"
        properties := [("samplers", {
          type := some "array"
          items := some {
            type := some "object"
            properties := [
              ("fraction", {
                type := some "number"
                minimum := some .zero
                exclusiveMinimum := true
                default := some (.number (.integer ⟨1, by decide⟩)) })] } })] }),
      ("status", { type := some "object" })] }⟩]

theorem samplersDefinition_survives_json :
    ∃ document, assemble samplersDefinition 2 = .ok document ∧
      document.specProperties.map Property.name = ["samplers"] ∧
      ∀ property ∈ document.specProperties,
        ofContent? (.ofJson property.toJson) = some property := by
  have accepted : (assemble samplersDefinition 2).toOption.map
      (fun document => document.specProperties.map Property.name) = some ["samplers"] := by
    decide +kernel
  rcases Option.map_eq_some_iff.mp accepted with ⟨document, told, names⟩
  have assembled : assemble samplersDefinition 2 = .ok document := by
    cases result : assemble samplersDefinition 2 with
    | ok other => rw [Option.some.inj ((congrArg Except.toOption result).symm.trans told)]
    | error fault => cases (congrArg Except.toOption result).symm.trans told
  have finite := (trees_survive_json.2.2 _ _ _ assembled).1
  refine ⟨document, assembled, names, ?_⟩
  intro property member
  exact trees_survive_json.1 property _
    (finite.of_mem (List.mem_append_left _ member)) (.refl _)

end Property

end CrdCompiler
