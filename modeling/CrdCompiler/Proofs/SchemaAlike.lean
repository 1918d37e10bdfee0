import CrdCompiler.Proofs.MappingAlike
import CrdCompiler.Proofs.SchemaRoundTrip

/-! # Schemas read alike at every place

A schema under `additionalProperties` is read as content first, any other schema directly. Where the
keywords of a node are spelled clearly, down to the last node below it, both ways accept the same
nodes and read them as the same.
-/

namespace CrdCompiler

namespace Fields

def map (change : σ → τ) (fields : Fields σ) : Fields τ :=
  ⟨fields.entries.map fun field => (field.1, change field.2)⟩

theorem lookup_map (change : σ → τ) (fields : Fields σ) (name : String) :
    (fields.map change).entries.lookup name = (fields.entries.lookup name).map change :=
  lookup_map_values fields.entries change name

theorem ofEntries?_map (change : σ → τ) (names : List String) (entries : List (ContentKey × σ)) :
    ofEntries? names (entries.map fun entry => (entry.1, change entry.2)) =
      (ofEntries? names entries).map (map change) := by
  induction entries with
  | nil => rfl
  | cons entry rest induction =>
      rcases entry with ⟨key, value⟩
      rw [List.map_cons, ofEntries?, ofEntries?, induction]
      cases ofEntries? names rest with
      | none => rfl
      | some fields =>
          cases fieldOf? names key with
          | none => rfl
          | some field =>
              cases field with
              | none => rfl
              | some name =>
                  simp only [Option.map_some, Option.bind_eq_bind, Option.bind_some, lookup_map,
                    Option.isSome_map]
                  split <;> rfl

theorem ofEntries?_of_other {names : List String} {entries : List (ContentKey × σ)}
    (other : .other ∈ entries.map Prod.fst) : ofEntries? names entries = none := by
  induction entries with
  | nil => exact absurd other List.not_mem_nil
  | cons entry rest induction =>
      rcases entry with ⟨key, value⟩
      rw [ofEntries?]
      rcases List.mem_cons.mp other with same | later
      · cases same
        cases ofEntries? names rest <;> rfl
      · rw [induction later]
        rfl

theorem found_of_named {names : List String} {nameOf : σ → String} {parts : List σ}
    {fields : Fields σ}
    (made : ofEntries? names (parts.map fun part => (.name (nameOf part), part)) = some fields)
    {name : String} {part : σ} (found : fields.entries.lookup name = some part) :
    part ∈ parts ∧ nameOf part = name := by
  rcases mem_of_found made found with ⟨key, entry, field⟩
  rcases List.mem_map.mp entry with ⟨_, held, same⟩
  cases same
  rw [fieldOf?] at field
  split at field
  · exact ⟨held, Option.some.inj (Option.some.inj field)⟩
  · cases field

theorem parts_sublist_of_named {names : List String} {nameOf : σ → String} {parts : List σ}
    {fields : Fields σ}
    (made : ofEntries? names (parts.map fun part => (.name (nameOf part), part)) = some fields) :
    (fields.entries.map Prod.snd).Sublist parts := by
  have kept := (fields_sublist made).map Prod.snd
  rw [List.map_map, List.map_map, List.map_map] at kept
  have whole : parts.map id = parts := List.map_id parts
  rw [← whole]
  exact kept

end Fields

theorem sum_lookup_le {names : List String} (distinct : names.Nodup) (weight : α → Nat)
    (entries : List (String × α)) :
    (names.map fun name => (entries.lookup name).elim 0 weight).sum ≤
      (entries.map fun entry => weight entry.2).sum := by
  induction entries with
  | nil => simp
  | cons entry rest induction =>
      rcases entry with ⟨held, value⟩
      have once : (names.map fun name => if name = held then weight value else 0).sum ≤
          weight value := by
        rw [List.sum_map_eq_nsmul_single held _ fun name other _ => if_neg other, if_pos rfl,
          Nat.nsmul_eq_mul]
        have most := List.nodup_iff_count_le_one.mp distinct held
        exact (Nat.mul_le_mul_right _ most).trans_eq (Nat.one_mul _)
      have split : ∀ name ∈ names, (((held, value) :: rest).lookup name).elim 0 weight ≤
          (if name = held then weight value else 0) + (rest.lookup name).elim 0 weight := by
        intro name _
        rw [lookup_cons_eq_ite]
        split
        · exact Nat.le_add_right _ _
        · exact Nat.le_add_left _ _
      calc (names.map fun name => (((held, value) :: rest).lookup name).elim 0 weight).sum
          ≤ (names.map fun name => (if name = held then weight value else 0) +
              (rest.lookup name).elim 0 weight).sum := List.sum_le_sum split
        _ = (names.map fun name => if name = held then weight value else 0).sum +
              (names.map fun name => (rest.lookup name).elim 0 weight).sum := List.sum_map_add
        _ ≤ weight value + (rest.map fun entry => weight entry.2).sum :=
            Nat.add_le_add once induction
        _ = (((held, value) :: rest).map fun entry => weight entry.2).sum := by
            rw [List.map_cons, List.sum_cons]

namespace Yaml

variable {anchors : List (Nat × Node Nat)} {remaining : Nat} {α : Type}

namespace Place

/-! ## Fields -/

section

variable (fields : Fields (Member anchors remaining)) {name : String} {reader : Place → Reader α}
  {decode : Content → Option α}

/-- How many references are followed to read a field. -/
def fieldPrice (name : String) : Nat :=
  (fields.entries.lookup name).elim 0 fun member => member.place.price anchors

theorem answers_getD (fallback : α)
    (reads : ∀ member, fields.entries.lookup name = some member →
      ReadsAs anchors reader decode member.place) :
    Answers anchors ((fields.map Member.place).getD name fallback reader) (fieldPrice fields name)
      ((fields.map Member.content).getD name fallback decode) := by
  rw [Fields.getD, Fields.getD, Fields.lookup_map, Fields.lookup_map, fieldPrice]
  cases found : fields.entries.lookup name with
  | none => exact .pure fallback
  | some member => exact reads member found member.content member.said

theorem answers_get?
    (reads : ∀ member, fields.entries.lookup name = some member →
      ReadsAs anchors (optional reader) (optional decode) member.place) :
    Answers anchors ((fields.map Member.place).get? name reader) (fieldPrice fields name)
      ((fields.map Member.content).get? name decode) := by
  rw [Fields.get?, Fields.get?, Fields.lookup_map, Fields.lookup_map, fieldPrice]
  cases found : fields.entries.lookup name with
  | none => exact .pure none
  | some member => exact reads member found member.content member.said

end

/-! ## Records -/

/-- The place is no sequence, and its entries are told by `each` under their names. -/
def recordIsClear (anchors : List (Nat × Node Nat)) (each : String → Place → Bool)
    (place : Place) : Bool :=
  match meant? anchors place.node with
  | some (.sequence _ _ _) => false
  | _ => place.entriesAreClear anchors each

/-- How a clear record is read: both ways with the same fields, or not at all. -/
inductive RecordRead (anchors : List (Nat × Node Nat)) (each : String → Place → Bool)
    (names : List String) : Place → Content → Prop where
  | fields {place : Place} {content : Content} {remaining limit : Nat}
      (fields : Fields (Member anchors remaining))
      (direct : Answers anchors (Fields.read names place) limit (some (fields.map Member.place)))
      (buffered : Fields.read (m := Option) names content = some (fields.map Member.content))
      (clear : ∀ name member, fields.entries.lookup name = some member → each name member.place)
      (most : limit + (fields.entries.map fun field => field.2.place.price anchors).sum ≤
        place.price anchors) : RecordRead anchors each names place content
  | refused {place : Place} {content : Content}
      (direct : Answers anchors (Fields.read (σ := Place) names place) (place.price anchors) none)
      (buffered : Fields.read (m := Option) names content = none) :
      RecordRead anchors each names place content

theorem recordRead {each : String → Place → Bool} (names : List String) {place : Place}
    {content : Content} (clear : place.recordIsClear anchors each)
    (said : place.content? anchors = some content) :
    RecordRead anchors each names place content := by
  have entries : place.entriesAreClear anchors each := by
    rw [recordIsClear] at clear
    split at clear
    · cases clear
    · exact clear
  cases entriesRead entries said with
  | refused refused nameless =>
      refine .refused refused.bind_none.bind_none ?_
      cases content with
      | mapping entries =>
          change (Fields.lift (Fields.ofEntries? names entries) : Option (Fields Content)) = none
          rw [Fields.ofEntries?_of_other nameless]
          rfl
      -- The items of a sequence are fields by position as content, and no fields directly.
      | sequence items =>
          cases bears_of_content? said with
          | scalar target told => exact absurd (Scalar.content?_flat told) (Nat.succ_ne_zero _)
          | sequence target own told =>
              rw [recordIsClear, target] at clear
              cases clear
      | _ => rfl
  | @members node remaining anchor tag members target valuesAlike =>
      let entries : List (ContentKey × Member anchors remaining) :=
        members.map fun member => (.name member.name, member)
      have direct : Answers anchors (Fields.read names (Place.mk node (remaining + 1)))
          (node.references + (members.map fun member => member.entry.1.references).sum)
          ((Fields.ofEntries? names entries).map (Fields.map Member.place)) := by
        rw [← Fields.ofEntries?_map, List.map_map]
        have record := (answers_members target).map fun found =>
          found.map fun part => (ContentKey.name part.1, part.2)
        rw [Option.map_some, List.map_map] at record
        rw [Fields.read, ← Nat.add_zero (node.references + _)]
        apply record.bind_some
        exact .lift _
      have buffered : Fields.read (m := Option) names
          (Content.mapping (members.map fun member => (.name member.name, member.content))) =
          (Fields.ofEntries? names entries).map (Fields.map Member.content) := by
        rw [← Fields.ofEntries?_map, List.map_map]
        exact Fields.lift_eq _
      cases made : Fields.ofEntries? names entries with
      | none =>
          rw [made] at direct buffered
          refine .refused (direct.mono ?_) buffered
          exact (Nat.le_add_right _ _).trans (members_le_price target)
      | some fields =>
          rw [made] at direct buffered
          refine .fields fields direct buffered ?_ ?_
          · intro name member found
            rcases Fields.found_of_named made found with ⟨held, named⟩
            rw [← named]
            exact valuesAlike member held
          · have kept := (Fields.parts_sublist_of_named made).map fun member =>
              member.place.price anchors
            have fewer := kept.sum_le_sum fun _ _ => Nat.zero_le _
            rw [List.map_map] at fewer
            exact (Nat.add_le_add_left fewer _).trans (members_le_price target)

end Place

end Yaml

namespace SchemaNode

open Yaml

variable {anchors : List (Nat × Node Nat)} {fuel : Nat}

/-! ## Keywords -/

/-- What stands under the keyword is spelled clearly, given which schemas are. Anything may stand
under `additionalProperties`, which is read as content wherever it is, and under a keyword of no
field. -/
def keywordIsClear (anchors : List (Nat × Node Nat)) (schema : Place → Bool) :
    String → Place → Bool
  | "type" | "description" | "pattern" | "format" =>
    Place.optionalIsClear anchors (Place.isSpelled anchors Scalar.isClearText)
  | "properties" => Place.entriesAreClear anchors fun _ => schema
  | "additionalProperties" => Place.optionalIsClear anchors fun _ => true
  | "items" => Place.optionalIsClear anchors schema
  | "required" => Place.listIsClear anchors (Place.isSpelled anchors Scalar.isClearText)
  | "default" => Place.optionalIsClear anchors fun place =>
      place.node.rawIsClear anchors place.remaining
  | "enum" => Place.listIsClear anchors fun place =>
      place.node.rawIsClear anchors place.remaining
  | "minimum" | "maximum" =>
    Place.optionalIsClear anchors (Place.isSpelled anchors Scalar.isClearNumber)
  | "exclusiveMinimum" | "exclusiveMaximum" => Place.isSpelled anchors Scalar.isClearFlag
  | "minLength" | "maxLength" =>
    Place.optionalIsClear anchors (Place.isSpelled anchors Scalar.isClearUnsigned)
  | _ => fun _ => true

/-- The schema at a place is spelled clearly down to the last node below it, with fuel for those. -/
def schemaIsClear (anchors : List (Nat × Node Nat)) : Nat → Place → Bool
  | 0 => fun _ => false
  | fuel + 1 => Place.recordIsClear anchors (keywordIsClear anchors (schemaIsClear anchors fuel))

theorem valuesAt_readsAs (place : Place) :
    Place.ReadsAs anchors valuesAt valuesOfContent? place := by
  intro content said
  have whole := (takes_untyped anchors place.remaining place.node).answers
  rw [← Place.content?, said] at whole
  rw [valuesAt, ← Nat.add_zero (place.price anchors)]
  apply whole.bind_some
  exact .lift _

theorem readWith_readsAs {node : Place → Reader SchemaNode} {schema : Place → Bool}
    (below : ∀ place : Place, schema place → Place.ReadsAs anchors node ofContent? place)
    {place : Place} (clear : place.recordIsClear anchors (keywordIsClear anchors schema)) :
    Place.ReadsAs anchors (readWith node valuesAt) (readWith ofContent? valuesOfContent?)
      place := by
  intro content said
  cases Place.recordRead keywords clear said with
  | refused direct buffered =>
      rw [readWith, readWith, buffered]
      exact direct.bind_none
  | @fields _ limit fields direct buffered clear most =>
      have text : ∀ {place : Place},
          place.optionalIsClear anchors (Place.isSpelled anchors Scalar.isClearText) →
          Place.ReadsAs anchors (optional Source.text) (optional Source.text) place :=
        Place.ReadsAs.optional fun _ => Place.ReadsAs.text
      have number : ∀ {place : Place},
          place.optionalIsClear anchors (Place.isSpelled anchors Scalar.isClearNumber) →
          Place.ReadsAs anchors (optional Source.number) (optional Source.number) place :=
        Place.ReadsAs.optional fun _ => Place.ReadsAs.number
      have unsigned : ∀ {place : Place},
          place.optionalIsClear anchors (Place.isSpelled anchors Scalar.isClearUnsigned) →
          Place.ReadsAs anchors (optional Source.unsigned) (optional Source.unsigned) place :=
        Place.ReadsAs.optional fun _ => Place.ReadsAs.unsigned
      have anyValues : ∀ {place : Place}, place.optionalIsClear anchors (fun _ => true) →
          Place.ReadsAs anchors (optional valuesAt) (optional valuesOfContent?) place :=
        Place.ReadsAs.optional fun place _ => valuesAt_readsAs place
      have type := Place.answers_get? fields fun member found => text (clear "type" member found)
      have properties := Place.answers_getD fields [] fun member found =>
        Place.ReadsAs.members below (clear "properties" member found)
      have values := Place.answers_get? fields fun member found =>
        anyValues (clear "additionalProperties" member found)
      have items := Place.answers_get? fields fun member found =>
        Place.ReadsAs.optional below (clear "items" member found)
      have required := Place.answers_getD fields [] fun member found =>
        Place.ReadsAs.list (fun _ => Place.ReadsAs.text) (clear "required" member found)
      have description := Place.answers_get? fields fun member found =>
        text (clear "description" member found)
      have default := Place.answers_get? fields fun member found =>
        Place.ReadsAs.optional (fun _ => Place.raw_readsAs) (clear "default" member found)
      have enum := Place.answers_getD fields [] fun member found =>
        Place.ReadsAs.list (fun _ => Place.raw_readsAs) (clear "enum" member found)
      have minimum := Place.answers_get? fields fun member found =>
        number (clear "minimum" member found)
      have maximum := Place.answers_get? fields fun member found =>
        number (clear "maximum" member found)
      have exclusiveMinimum := Place.answers_getD fields false fun member found =>
        Place.ReadsAs.flag (clear "exclusiveMinimum" member found)
      have exclusiveMaximum := Place.answers_getD fields false fun member found =>
        Place.ReadsAs.flag (clear "exclusiveMaximum" member found)
      have minLength := Place.answers_get? fields fun member found =>
        unsigned (clear "minLength" member found)
      have maxLength := Place.answers_get? fields fun member found =>
        unsigned (clear "maxLength" member found)
      have pattern := Place.answers_get? fields fun member found =>
        text (clear "pattern" member found)
      have format := Place.answers_get? fields fun member found =>
        text (clear "format" member found)
      -- Each field is read once, so all of them follow no more references than all entries have.
      have found := sum_lookup_le keywords_nodup
        (fun member : Member anchors _ => member.place.price anchors) fields.entries
      rw [readWith, readWith, buffered]
      refine Answers.mono ?_ ((Nat.add_le_add_left found limit).trans most)
      apply direct.bind_some
      exact type.bind fun type _ => properties.bind fun properties _ =>
        values.bind fun values _ => items.bind fun items _ => required.bind fun required _ =>
        description.bind fun description _ => default.bind fun default _ =>
        enum.bind fun enum _ => minimum.bind fun minimum _ => maximum.bind fun maximum _ =>
        exclusiveMinimum.bind fun exclusiveMinimum _ =>
        exclusiveMaximum.bind fun exclusiveMaximum _ =>
        minLength.bind fun minLength _ => maxLength.bind fun maxLength _ =>
        pattern.bind fun pattern _ => format.bind fun format _ => .pure _

/-- Where the schema at a place is clear, reading it directly comes to what is read from its
content. -/
theorem atPlace_readsAs {place : Place} (clear : schemaIsClear anchors fuel place) :
    Place.ReadsAs anchors (atPlace fuel) ofContent? place := by
  induction fuel generalizing place with
  | zero => cases clear
  | succ fuel induction =>
      intro content said
      rw [ofContent?_eq]
      exact readWith_readsAs (fun _ below => induction below) clear content said

/-- Where a schema is spelled clearly and all of it is content, it does not matter whether it stands
under `additionalProperties` or where schemas are read directly: it is accepted at both or at
neither, and it is the same node. A flag under `additionalProperties` is no schema. -/
theorem read_alike {place : Place} {budget left : Nat} {content : Content}
    (buffered : ((Place.untyped place.remaining place.node).run budget).run anchors =
      some (content, left))
    (schema : ∀ allowed, content ≠ .bool allowed) (clear : schemaIsClear anchors fuel place) :
    (((valuesAt place).run budget).run anchors).map Prod.fst =
      (((atPlace fuel place).run budget).run anchors).map fun read => .schema read.1 := by
  have taken := takes_untyped anchors place.remaining place.node budget
  rw [buffered] at taken
  rcases Option.ite_none_right_eq_some.mp taken.symm with ⟨paid, told⟩
  rcases Option.map_eq_some_iff.mp told with ⟨_, said, same⟩
  cases same
  rcases Nat.exists_eq_add_of_le paid with ⟨spare, rfl⟩
  rcases valuesAt_readsAs place content said spare with ⟨_, _, values⟩
  rcases atPlace_readsAs clear content said spare with ⟨_, _, direct⟩
  have read : valuesOfContent? content = .schema <$> ofContent? content := by
    cases content with
    | bool allowed => exact absurd rfl (schema allowed)
    | _ => rfl
  rw [read] at values
  refine (congrArg (Option.map Prod.fst) values).trans (Eq.trans ?_
    (congrArg (Option.map fun read => AdditionalProperties.schema read.1) direct).symm)
  cases ofContent? content <;> rfl

/-- An amount, which several schemas refer to. -/
def amountNode : Node Nat :=
  .mapping (some "amount") none [
    (.scalar none none .plain "type", .scalar none none .plain "integer"),
    (.scalar none none .plain "minimum", .scalar none none .plain "0")]

def quotaPlace : Place where
  node := .mapping none none [
    (.scalar none none .plain "properties", .mapping none none [
      (.scalar none none .plain "cpu", .reference 0),
      (.scalar none none .quoted "memory", .reference 0)]),
    (.scalar none none .plain "additionalProperties", .reference 0)]
  remaining := 3

def amountContent : Content :=
  .mapping [(.name "type", .text "integer"), (.name "minimum", .integer (.ofInt64 0))]

def quotaContent : Content :=
  .mapping [
    (.name "properties", .mapping [
      (.name "cpu", amountContent), (.name "memory", amountContent)]),
    (.name "additionalProperties", amountContent)]

theorem quota_read_alike :
    (((atPlace 4 quotaPlace).run 5).run [(0, amountNode)]).isSome ∧
      (((valuesAt quotaPlace).run 5).run [(0, amountNode)]).map Prod.fst =
        (((atPlace 4 quotaPlace).run 5).run [(0, amountNode)]).map fun read => .schema read.1 := by
  have buffered : ((Place.untyped 3 quotaPlace.node).run 5).run [(0, amountNode)] =
      some (quotaContent, 2) := by
    rw [takes_untyped]
    rfl
  exact ⟨by decide +kernel,
    read_alike buffered (fun _ => Content.noConfusion) (by decide +kernel)⟩

/-- An integer of more than 64 bits has no content, so that a schema with one under a keyword of no
field is accepted in one place and refused in the other. -/
theorem wideExample_read_differently :
    (ofText? "items:\n  type: string\n  example: 18446744073709551616\n").isSome ∧
      (ofText?
        "additionalProperties:\n  type: string\n  example: 18446744073709551616\n").isNone := by
  decide +kernel

end SchemaNode

end CrdCompiler
