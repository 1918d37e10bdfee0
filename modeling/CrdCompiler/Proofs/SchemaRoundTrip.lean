import CrdCompiler.Proofs.Keys
import CrdCompiler.Proofs.RecordReading
import CrdCompiler.Schema.Reading

/-! # Schemas read back

The JSON form of a schema loses nothing: every node is read back from it, with its properties in
their order, with what it says about further members, and with its raw values as they were.
-/

namespace CrdCompiler

namespace SchemaNode

/-! ## What JSON can tell -/

/-- The node and all nodes below it are of a kind. -/
inductive Throughout (Holds : SchemaNode → Prop) : SchemaNode → Prop where
  | intro {node : SchemaNode} (here : Holds node)
      (properties : ∀ name child, (name, child) ∈ node.properties → child.Throughout Holds)
      (values : ∀ values, node.additionalProperties = .schema values → values.Throughout Holds)
      (items : ∀ elements, node.items = some elements → elements.Throughout Holds) :
      node.Throughout Holds

theorem Throughout.leaf {Holds : SchemaNode → Prop} {node : SchemaNode} (here : Holds node)
    (fieldless : node.properties = [])
    (valueless : ∀ values, node.additionalProperties ≠ .schema values)
    (itemless : node.items = none) : node.Throughout Holds := by
  refine .intro here ?_ ?_ ?_
  · intro name child member
    rw [fieldless] at member
    exact absurd member List.not_mem_nil
  · intro values valued
    exact absurd valued (valueless values)
  · intro elements itemized
    rw [itemless] at itemized
    cases itemized

/-- What the node itself says can be told in JSON: bounds are finite, a default is not null, and raw
values have the order in which such values are read. -/
structure IsWritable (node : SchemaNode) : Prop where
  minimum : ∀ bound ∈ node.minimum, ∃ value, bound = .finite value
  maximum : ∀ bound ∈ node.maximum, ∃ value, bound = .finite value
  default : node.default ≠ some .null
  sortedDefault : ∀ raw ∈ node.default, raw.HasSortedMembers
  sortedEnum : ∀ raw ∈ node.enum, raw.HasSortedMembers

/-! ## Slots of a node -/

def valuesSlot (node : SchemaNode) : Option Json :=
  match node.additionalProperties with
  | .absent => none
  | .flag allowed => some (.bool allowed)
  | .schema values => some values.toJson

def slots (node : SchemaNode) : List (String × Option Json) := [
  ("type", node.type.map .string),
  ("properties", nonempty (node.properties.map fun entry => (entry.1, entry.2.toJson)) .object),
  ("additionalProperties", node.valuesSlot),
  ("items", node.items.map toJson),
  ("required", nonempty node.required fun names => .array (names.map .string)),
  ("description", node.description.map .string),
  ("default", node.default),
  ("enum", nonempty node.enum .array),
  ("minimum", node.minimum.map .ofBinary64),
  ("maximum", node.maximum.map .ofBinary64),
  ("exclusiveMinimum", some (.bool node.exclusiveMinimum)),
  ("exclusiveMaximum", some (.bool node.exclusiveMaximum)),
  ("minLength", node.minLength.map fun word => .number (.integer (.ofUInt64 word))),
  ("maxLength", node.maxLength.map fun word => .number (.integer (.ofUInt64 word))),
  ("pattern", node.pattern.map .string),
  ("format", node.format.map .string)]

theorem slots_names (node : SchemaNode) : node.slots.map Prod.fst = keywords := rfl

theorem keywords_nodup : keywords.Nodup := by decide

theorem slots_distinct (node : SchemaNode) : (node.slots.map Prod.fst).Nodup :=
  node.slots_names ▸ keywords_nodup

theorem membersToJson_eq_map (entries : List (String × SchemaNode)) :
    membersToJson entries = entries.map fun entry => (entry.1, entry.2.toJson) := by
  induction entries with
  | nil => rfl
  | cons entry rest induction => rw [membersToJson, induction, List.map_cons]

theorem filled_cons (name : String) (content : Option Json) (rest : List (String × Option Json)) :
    Json.filled ((name, content) :: rest) = member name content ++ Json.filled rest := by
  cases content <;> rfl

theorem filled_nil : Json.filled [] = [] := rfl

theorem toJson_eq (node : SchemaNode) : node.toJson = .object (Json.filled node.slots) := by
  rw [toJson.eq_def]
  cases node with
  | mk type properties additionalProperties items =>
      simp only [slots, filled_cons, filled_nil, membersToJson_eq_map, List.append_assoc,
        List.append_nil]
      cases additionalProperties <;> cases items <;> rfl

/-! ## Keywords read back -/

def written (node : SchemaNode) : Fields Content :=
  .ofSlots node.slots

section

variable {node : SchemaNode} {name : String}

theorem read_toJson (node : SchemaNode) :
    Fields.read (m := Option) keywords (.ofJson node.toJson) = some node.written := by
  rw [toJson_eq]
  exact Fields.read_filled node.slots_distinct

theorem get?_text {stored : Option String} (slot : (name, stored.map .string) ∈ node.slots) :
    node.written.get? name Source.text = some stored :=
  Fields.get?_map node.slots_distinct slot (by simp) fun _ _ => rfl

theorem get?_word {stored : Option UInt64}
    (slot : (name, stored.map fun word => .number (.integer (.ofUInt64 word))) ∈ node.slots) :
    node.written.get? name Source.unsigned = some stored :=
  Fields.get?_map node.slots_distinct slot (by simp) fun word _ =>
    Integer64.toUInt64?_ofUInt64 word

theorem get?_number {stored : Option Binary64}
    (finite : ∀ bound ∈ stored, ∃ value, bound = .finite value)
    (slot : (name, stored.map .ofBinary64) ∈ node.slots) :
    node.written.get? name Source.number = some stored := by
  refine Fields.get?_map node.slots_distinct slot ?_ ?_
  · intro bound held
    rcases finite bound held with ⟨value, rfl⟩
    simp [Json.ofBinary64]
  · intro bound held
    rcases finite bound held with ⟨value, rfl⟩
    rfl

theorem getD_flag {stored : Bool} (slot : (name, some (.bool stored)) ∈ node.slots) :
    node.written.getD name false Source.flag = some stored :=
  Fields.getD_filled node.slots_distinct slot false rfl

theorem getD_nonempty {parts : List α} {values : List β} {toJson : List α → Json}
    {decode : Content → Option (List β)} (empty : parts = [] → values = [])
    (slot : (name, nonempty parts toJson) ∈ node.slots)
    (reads : decode (.ofJson (toJson parts)) = some values) :
    node.written.getD name [] decode = some values := by
  cases parts with
  | nil =>
      rw [empty rfl]
      exact Fields.getD_empty node.slots_distinct slot []
  | cons first rest => exact Fields.getD_filled node.slots_distinct slot [] reads

theorem get?_values {child : Content → Option SchemaNode}
    (reads : ∀ values, node.additionalProperties = .schema values →
      child (.ofJson values.toJson) = some values) :
    ∃ said, node.written.get? "additionalProperties" (valuesOf? child) = some said ∧
      said.getD .absent = node.additionalProperties := by
  have slot : ("additionalProperties", node.valuesSlot) ∈ node.slots := by simp [slots]
  rw [valuesSlot] at slot
  cases stated : node.additionalProperties with
  | absent =>
      rw [stated] at slot
      exact ⟨none, Fields.get?_empty node.slots_distinct slot, rfl⟩
  | flag allowed =>
      rw [stated] at slot
      exact ⟨some (.flag allowed),
        Fields.get?_filled node.slots_distinct slot (by simp) rfl, rfl⟩
  | schema values =>
      rw [stated] at slot
      have read : valuesOf? child (.ofJson values.toJson) = some (.schema values) := by
        rw [← Option.map_some, ← reads values stated, toJson_eq]
        rfl
      refine ⟨some (.schema values), Fields.get?_filled node.slots_distinct slot ?_ read, rfl⟩
      simp [toJson_eq]

end

/-! ## Nodes read back -/

theorem readWith_toJson {node : SchemaNode} {child : Content → Option SchemaNode}
    (keys : (node.properties.map Prod.fst).Nodup) (writable : node.IsWritable)
    (entries : ∀ name below, (name, below) ∈ node.properties →
      child (.ofJson below.toJson) = some below)
    (valued : ∀ below, node.additionalProperties = .schema below →
      child (.ofJson below.toJson) = some below)
    (itemized : ∀ below, node.items = some below → child (.ofJson below.toJson) = some below) :
    readWith child (valuesOf? child) (.ofJson node.toJson) = some node := by
  have type : node.written.get? "type" Source.text = some node.type := get?_text (by simp [slots])
  have properties : node.written.getD "properties" [] (readMembers child) = some node.properties :=
    getD_nonempty List.map_eq_nil_iff.mp (by simp [slots]) (readMembers_object keys entries)
  have items : node.written.get? "items" child = some node.items :=
    Fields.get?_map node.slots_distinct (by simp [slots]) (by simp [toJson_eq]) itemized
  have required : node.written.getD "required" [] (readItems Source.text) = some node.required := by
    have slot : ("required", nonempty node.required fun names => .array (names.map .string)) ∈
        node.slots := by simp [slots]
    exact getD_nonempty id slot (readItems_array fun _ _ => rfl)
  have description : node.written.get? "description" Source.text = some node.description :=
    get?_text (by simp [slots])
  have default : node.written.get? "default" Source.raw = some node.default := by
    have slot : ("default", node.default.map id) ∈ node.slots := by simp [slots]
    refine Fields.get?_map node.slots_distinct slot ?_ ?_
    · intro raw held null
      exact writable.default (held.trans (congrArg some null))
    · intro raw held
      exact Content.toJson?_ofJson (writable.sortedDefault raw held)
  have enum : node.written.getD "enum" [] (readItems Source.raw) = some node.enum := by
    have each : ∀ raw ∈ node.enum, Source.raw (Content.ofJson (id raw)) = some raw :=
      fun raw member => Content.toJson?_ofJson (writable.sortedEnum raw member)
    have slot : ("enum", nonempty node.enum .array) ∈ node.slots := by simp [slots]
    refine getD_nonempty id slot ?_
    rw [← readItems_array each, List.map_id]
  have minimum : node.written.get? "minimum" Source.number = some node.minimum :=
    get?_number writable.minimum (by simp [slots])
  have maximum : node.written.get? "maximum" Source.number = some node.maximum :=
    get?_number writable.maximum (by simp [slots])
  have exclusiveMinimum : node.written.getD "exclusiveMinimum" false Source.flag =
      some node.exclusiveMinimum := getD_flag (by simp [slots])
  have exclusiveMaximum : node.written.getD "exclusiveMaximum" false Source.flag =
      some node.exclusiveMaximum := getD_flag (by simp [slots])
  have minLength : node.written.get? "minLength" Source.unsigned = some node.minLength :=
    get?_word (by simp [slots])
  have maxLength : node.written.get? "maxLength" Source.unsigned = some node.maxLength :=
    get?_word (by simp [slots])
  have pattern : node.written.get? "pattern" Source.text = some node.pattern :=
    get?_text (by simp [slots])
  have format : node.written.get? "format" Source.text = some node.format :=
    get?_text (by simp [slots])
  rcases get?_values valued with ⟨said, values, said_eq⟩
  -- Reading one field does not depend on the fields read before it.
  rw [readWith, read_toJson, Option.bind_eq_bind, Option.bind_some]
  simp only [type, properties, values, items, required, description, default, enum, minimum,
    maximum, exclusiveMinimum, exclusiveMaximum, minLength, maxLength, pattern, format]
  simp only [Option.bind_eq_bind, Option.bind_some, said_eq]
  cases node
  rfl

theorem depth_toJson_lt_of_property {node below : SchemaNode} {name : String}
    (member : (name, below) ∈ node.properties) :
    (Content.ofJson below.toJson).depth < (Content.ofJson node.toJson).depth := by
  let members := node.properties.map fun entry => (entry.1, entry.2.toJson)
  have filled : ("properties", .object members) ∈ Json.filled node.slots := by
    rw [Json.mem_filled]
    simp [slots, nonempty, members, List.ne_nil_of_mem member]
  have entry : (name, below.toJson) ∈ members := List.mem_map_of_mem member
  rw [toJson_eq node]
  exact (Content.depth_ofJson_lt entry).trans (Content.depth_ofJson_lt filled)

theorem depth_toJson_lt_of_values {node below : SchemaNode}
    (valued : node.additionalProperties = .schema below) :
    (Content.ofJson below.toJson).depth < (Content.ofJson node.toJson).depth := by
  have filled : ("additionalProperties", below.toJson) ∈ Json.filled node.slots := by
    rw [Json.mem_filled]
    simp [slots, valuesSlot, valued]
  rw [toJson_eq node]
  exact Content.depth_ofJson_lt filled

theorem depth_toJson_lt_of_items {node below : SchemaNode} (itemized : node.items = some below) :
    (Content.ofJson below.toJson).depth < (Content.ofJson node.toJson).depth := by
  have filled : ("items", below.toJson) ∈ Json.filled node.slots := by
    rw [Json.mem_filled]
    simp [slots, itemized]
  rw [toJson_eq node]
  exact Content.depth_ofJson_lt filled

/-- A node takes one level of depth, and the nodes below it are less deep, so that the depth of its
content is enough to read it. -/
theorem ofNested?_toJson {node : SchemaNode} (distinct : node.HasDistinctKeys)
    (writable : node.Throughout IsWritable) {depth : Nat}
    (deep : (Content.ofJson node.toJson).depth ≤ depth) :
    ofNested? depth (.ofJson node.toJson) = some node := by
  induction writable generalizing depth with
  | @intro node here _ _ _ properties values items =>
      cases depth with
      | zero =>
          have positive : 0 < (Content.ofJson node.toJson).depth := by
            rw [toJson_eq]
            exact Nat.succ_pos _
          omega
      | succ depth =>
          refine readWith_toJson distinct.keys here ?_ ?_ ?_
          · intro name below member
            have shallower := depth_toJson_lt_of_property member
            exact properties name below member (distinct.property member) (by omega)
          · intro below valued
            have shallower := depth_toJson_lt_of_values valued
            exact values below valued (distinct.value valued) (by omega)
          · intro below itemized
            have shallower := depth_toJson_lt_of_items itemized
            exact items below itemized (distinct.item itemized) (by omega)

/-- A schema is read back from its own JSON form as it was. The order of its properties, the state
of `additionalProperties` and the kinds of raw numbers are part of what comes back. -/
theorem schema_survives_json {node : SchemaNode} (distinct : node.HasDistinctKeys)
    (writable : node.Throughout IsWritable) : ofContent? (.ofJson node.toJson) = some node :=
  ofNested?_toJson distinct writable le_rfl

/-- A listener whose properties are not in the order of their names. -/
def listenerSchema : SchemaNode where
  type := some "object"
  properties := [
    ("protocol", { type := some "string", enum := [.string "tcp", .null, .string "http"] }),
    ("limits", {
      type := some "object"
      additionalProperties := .schema {
        type := some "integer"
        default := some (.number (.integer (.ofUInt64 18446744073709551615)))
        minimum := some .zero
        exclusiveMinimum := true } }),
    ("aliases", {
      type := some "array"
      additionalProperties := .flag false
      items := some { type := some "string", maxLength := some 63 } })]

theorem listenerSchema_survives_json :
    listenerSchema.HasDistinctKeys ∧ listenerSchema.Throughout IsWritable ∧
      ofContent? (.ofJson listenerSchema.toJson) = some listenerSchema := by
  have distinct : listenerSchema.HasDistinctKeys := by decide
  have writable : listenerSchema.Throughout IsWritable := by
    refine .intro (by constructor <;> simp [listenerSchema]) ?_ (by simp [listenerSchema])
      (by simp [listenerSchema])
    intro name child member
    simp only [listenerSchema, List.mem_cons, Prod.mk.injEq, List.not_mem_nil, or_false] at member
    rcases member with ⟨_, rfl⟩ | ⟨_, rfl⟩ | ⟨_, rfl⟩
    · refine .leaf ?_ rfl (by simp) rfl
      constructor <;> simp [Json.HasSortedMembers.string, Json.HasSortedMembers.null]
    · refine .intro (by constructor <;> simp) (by simp) ?_ (by simp)
      intro values valued
      cases valued
      refine .leaf ?_ rfl (by simp) rfl
      constructor <;> simp [Json.HasSortedMembers.number, Binary64.zero]
    · refine .intro (by constructor <;> simp) (by simp) (by simp) ?_
      intro elements itemized
      cases itemized
      exact .leaf (by constructor <;> simp) rfl (by simp) rfl
  exact ⟨distinct, writable, schema_survives_json distinct writable⟩

end SchemaNode

end CrdCompiler
