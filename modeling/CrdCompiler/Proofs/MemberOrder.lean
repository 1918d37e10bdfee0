import CrdCompiler.JsonForm.Property
import CrdCompiler.Proofs.RecordReading

/-! # Members in any order

Programs keep the members of an object in the order in which they are written or in an order of
their own. What is read by name is read alike from either: a record from its slots, and a tagged
value by its tag and from what is left beside it.
-/

namespace CrdCompiler

namespace Json

/-- The same value, the members of its objects in any order. -/
inductive Reordered : Json → Json → Prop where
  | refl (json : Json) : Reordered json json
  | array {items items' : List Json} (each : List.Forall₂ Reordered items items') :
      Reordered (.array items) (.array items')
  | object {members members' : List (String × Json)}
      (names : (members.map Prod.fst).Perm (members'.map Prod.fst))
      (values : ∀ name value value', (name, value) ∈ members → (name, value') ∈ members' →
        Reordered value value') : Reordered (.object members) (.object members')

theorem Reordered.ne_null {json json' : Json} (same : json.Reordered json')
    (told : json ≠ .null) : json' ≠ .null := by
  cases same with
  | refl => exact told
  | array each => exact nofun
  | object names values => exact nofun

/-- Whatever the order of members in the value, within some depth, this is what it is read as. -/
def ReadAs (depth : Nat) (decode : Content → Option α) (json : Json) (value : α) : Prop :=
  ∀ json', json.Reordered json' → (Content.ofJson json').depth ≤ depth →
    decode (.ofJson json') = some value

variable {depth : Nat} {decode : Content → Option α} {value : α}

theorem ReadAs.leaf {json : Json} (plain : (Content.ofJson json).depth = 0)
    (reads : decode (.ofJson json) = some value) : json.ReadAs depth decode value := by
  intro json' same _
  cases same with
  | refl => exact reads
  | array each => cases plain
  | object names values => cases plain

theorem ReadAs.array {values : List α} {encode : α → Json}
    (reads : ∀ value ∈ values, (encode value).ReadAs depth decode value) :
    (Json.array (values.map encode)).ReadAs depth (CrdCompiler.readItems decode) values := by
  intro json' same deep
  have items : ∃ items', json' = .array items' ∧
      List.Forall₂ Reordered (values.map encode) items' := by
    cases same with
    | refl => exact ⟨_, rfl, List.forall₂_same.mpr fun item _ => .refl item⟩
    | array each => exact ⟨_, rfl, each⟩
  rcases items with ⟨items', rfl, each⟩
  have shallow : ∀ item ∈ items', (Content.ofJson item).depth ≤ depth := by
    intro item member
    exact (Content.depth_ofJson_item_lt member).le.trans deep
  rw [List.forall₂_map_left_iff] at each
  have run : (items'.map Content.ofJson).mapM decode = some values := by
    clear same deep
    induction each with
    | nil => rfl
    | cons first others induction =>
        rcases List.forall_mem_cons.mp reads with ⟨readsFirst, readsOthers⟩
        rcases List.forall_mem_cons.mp shallow with ⟨shallowFirst, shallowOthers⟩
        rw [List.map_cons, List.mapM_cons, readsFirst _ first shallowFirst,
          induction readsOthers shallowOthers]
        rfl
  rw [Content.ofJson, Content.itemsOfJson_eq_map]
  exact run

theorem ReadAs.nested {decode : Nat → Content → Option α} {members : List (String × Json)}
    (reads : ∀ below, (Json.object members).ReadAs (below + 1) (decode (below + 1)) value) :
    (Json.object members).ReadAs depth (decode depth) value := by
  cases depth with
  | zero =>
      intro json' same flat
      cases same <;> exact absurd flat (Nat.not_succ_le_zero _)
  | succ below => exact reads below

/-! ## Objects -/

/-- The members are those that slots of distinct names are written as, in any order of theirs and of
the members inside them; their values are within a depth. -/
structure FilledBy (depth : Nat) (members : List (String × Json))
    (slots : List (String × Option Json)) : Prop where
  distinct : (slots.map Prod.fst).Nodup
  names : ((filled slots).map Prod.fst).Perm (members.map Prod.fst)
  values : ∀ name value value', (name, some value) ∈ slots → (name, value') ∈ members →
    Reordered value value'
  shallow : ∀ name value, (name, value) ∈ members → (Content.ofJson value).depth ≤ depth

theorem Reordered.filledBy {json : Json} (slots : List (String × Option Json))
    (distinct : (slots.map Prod.fst).Nodup) (same : Reordered (.object (filled slots)) json)
    (deep : (Content.ofJson json).depth ≤ depth + 1) :
    ∃ members, json = .object members ∧ FilledBy depth members slots := by
  cases same with
  | refl =>
      refine ⟨_, rfl, distinct, .refl _, ?_, ?_⟩
      · intro name value value' slot member
        rw [mem_filled] at member
        cases eq_of_mem_of_mem distinct slot member
        exact .refl value
      · intro name value member
        exact Nat.le_of_lt_succ ((Content.depth_ofJson_lt member).trans_le deep)
  | object names values =>
      refine ⟨_, rfl, distinct, names, ?_, ?_⟩
      · intro name value value' slot member
        exact values name value value' (mem_filled.mpr slot) member
      · intro name value member
        exact Nat.le_of_lt_succ ((Content.depth_ofJson_lt member).trans_le deep)

namespace FilledBy

variable {members : List (String × Json)} {slots : List (String × Option Json)} {name : String}
  {json : Json}

theorem nodup (held : FilledBy depth members slots) : (members.map Prod.fst).Nodup :=
  held.names.nodup ((filled_names_sublist slots).nodup held.distinct)

def fields (members : List (String × Json)) : Fields Content :=
  ⟨members.map fun member => (member.1, Content.ofJson member.2)⟩

theorem read (held : FilledBy depth members slots) :
    Fields.read (m := Option) (slots.map Prod.fst) (Content.ofJson (.object members)) =
      some (fields members) := by
  have names : (fields members).entries.map Prod.fst = members.map Prod.fst := by
    rw [fields, List.map_map]
    rfl
  have known : members.map Prod.fst ⊆ slots.map Prod.fst := by
    intro name member
    exact (filled_names_sublist slots).subset (held.names.mem_iff.mpr member)
  have read := Fields.ofEntries?_named (names.symm ▸ known) (names.symm ▸ held.nodup)
  rw [Content.ofJson, Content.entriesOfJson_eq_map]
  rw [fields, List.map_map] at read
  exact congrArg (fun found => (Fields.lift found : Option (Fields Content))) read

theorem lookup_empty (held : FilledBy depth members slots) (slot : (name, none) ∈ slots) :
    (fields members).entries.lookup name = none := by
  rw [fields, lookup_map_values]
  have absent : name ∉ members.map Prod.fst := by
    rw [← held.names.mem_iff]
    intro written
    rcases List.mem_map.mp written with ⟨⟨_, value⟩, member, rfl⟩
    cases eq_of_mem_of_mem held.distinct slot (mem_filled.mp member)
  rw [lookup_of_notMem absent]
  rfl

theorem lookup_filled (held : FilledBy depth members slots)
    (slot : (name, some json) ∈ slots) :
    ∃ json', json.Reordered json' ∧ (Content.ofJson json').depth ≤ depth ∧
      (fields members).entries.lookup name = some (.ofJson json') := by
  have written : name ∈ members.map Prod.fst := by
    rw [← held.names.mem_iff]
    exact List.mem_map_of_mem (mem_filled.mpr slot)
  rcases List.mem_map.mp written with ⟨⟨_, json'⟩, member, rfl⟩
  refine ⟨json', held.values _ _ _ slot member, held.shallow _ _ member, ?_⟩
  rw [fields, lookup_map_values, (lookup_eq_some_iff_mem held.nodup).mpr member]
  rfl

theorem needed (held : FilledBy depth members slots) (slot : (name, some json) ∈ slots)
    (reads : json.ReadAs depth decode value) :
    (fields members).needed name decode = some value := by
  rcases held.lookup_filled slot with ⟨json', same, deep, found⟩
  rw [Fields.needed, found]
  exact reads json' same deep

theorem getD (held : FilledBy depth members slots) (slot : (name, some json) ∈ slots)
    (fallback : α) (reads : json.ReadAs depth decode value) :
    (fields members).getD name fallback decode = some value := by
  rcases held.lookup_filled slot with ⟨json', same, deep, found⟩
  rw [Fields.getD, found]
  exact reads json' same deep

theorem get? (held : FilledBy depth members slots) {encode : α → Json} {stored : Option α}
    (slot : (name, stored.map encode) ∈ slots) (told : ∀ value ∈ stored, encode value ≠ .null)
    (reads : ∀ value ∈ stored, (encode value).ReadAs depth decode value) :
    (fields members).get? name decode = some stored := by
  cases stored with
  | none =>
      rw [Fields.get?, held.lookup_empty slot]
      rfl
  | some value =>
      rcases held.lookup_filled slot with ⟨json', same, deep, found⟩
      have read := reads value rfl json' same deep
      rw [Fields.get?, found]
      simp only [Content.present?_ofJson (same.ne_null (told value rfl)), Option.bind_eq_bind,
        Option.bind_some, read]
      rfl

theorem tagged {tag case : String}
    (held : FilledBy depth members ((tag, some (.string case)) :: slots)) :
    ∃ rest, (Content.ofJson (.object members)).tagged? tag = some (case, .ofJson (.object rest)) ∧
      FilledBy depth rest slots := by
  rcases List.nodup_cons.mp held.distinct with ⟨fresh, distinct⟩
  have names := held.names
  have written : filled ((tag, some (.string case)) :: slots) =
      (tag, .string case) :: filled slots := rfl
  rw [written, List.map_cons] at names
  have others : ∀ name ∈ (filled slots).map Prod.fst, name ≠ tag := by
    intro name member same
    exact fresh (same ▸ (filled_names_sublist slots).subset member)
  have named := names.filter (· = tag)
  have unnamed := names.filter (· ≠ tag)
  rw [List.filter_cons_of_pos (by simp), List.filter_eq_nil_iff.mpr (by simpa using others),
    List.filter_map] at named
  rw [List.filter_cons_of_neg (by simp), List.filter_eq_self.mpr (by simpa using others),
    List.filter_map] at unnamed
  have single : members.filter (·.1 = tag) = [(tag, .string case)] := by
    rcases List.map_eq_singleton_iff.mp (List.perm_singleton.mp named.symm) with
      ⟨⟨_, value⟩, only, rfl⟩
    have member : (_, value) ∈ members := (List.mem_filter.mp (only ▸ List.mem_singleton_self _)).1
    cases held.values _ _ _ List.mem_cons_self member
    exact only
  refine ⟨members.filter (·.1 ≠ tag), ?_, distinct, unnamed, ?_, ?_⟩
  · have isTag : (fun entry : ContentKey × Content => decide (entry.1 = .name tag)) ∘
        (fun member : String × Json => ((.name member.1, Content.ofJson member.2) :
          ContentKey × Content)) = fun member => decide (member.1 = tag) := by
      funext member
      simp
    have isOther : (not ∘ fun entry : ContentKey × Content => decide (entry.1 = .name tag)) ∘
        (fun member : String × Json => ((.name member.1, Content.ofJson member.2) :
          ContentKey × Content)) = fun member => decide (member.1 ≠ tag) := by
      funext member
      simp
    rw [Content.ofJson, Content.tagged?, Content.entriesOfJson_eq_map,
      List.partition_eq_filter_filter, List.filter_map, List.filter_map, isTag, isOther, single,
      Content.ofJson, Content.entriesOfJson_eq_map]
    rfl
  · intro name value value' slot member
    exact held.values name value value' (List.mem_cons_of_mem _ slot) (List.mem_filter.mp member).1
  · intro name value member
    exact held.shallow name value (List.mem_filter.mp member).1

theorem only (held : FilledBy depth members [(name, some json)])
    (reads : json.ReadAs depth decode value) :
    ∃ fields, Fields.read (m := Option) [name] (Content.ofJson (.object members)) = some fields ∧
      fields.needed name decode = some value :=
  ⟨fields members, held.read, held.needed List.mem_cons_self reads⟩

end FilledBy

theorem ReadAs.tagged (tag case : String) (slots : List (String × Option Json))
    (distinct : (tag :: slots.map Prod.fst).Nodup)
    (reads : ∀ rest, FilledBy depth rest slots → ∀ content : Content,
      content.tagged? tag = some (case, .ofJson (.object rest)) → decode content = some value) :
    (Json.object (filled ((tag, some (.string case)) :: slots))).ReadAs (depth + 1) decode
      value := by
  intro json' same deep
  rcases same.filledBy ((tag, some (.string case)) :: slots) distinct deep with
    ⟨members, rfl, held⟩
  rcases held.tagged with ⟨rest, found, others⟩
  exact reads rest others _ found

theorem ReadAs.taggedField (tag case name : String) (distinct : tag ≠ name) {field : Json}
    {decodeField : Content → Option β} {stored : β} {build : β → α}
    (reads : field.ReadAs depth decodeField stored)
    (decodes : ∀ content rest : Content, content.tagged? tag = some (case, rest) →
      decode content = do
        let fields ← Fields.read [name] rest
        return build (← fields.needed name decodeField)) :
    (Json.object (filled [(tag, some (.string case)), (name, some field)])).ReadAs (depth + 1)
      decode (build stored) := by
  apply ReadAs.tagged tag case [(name, some field)] (by simp [distinct])
  intro rest held content tagged
  rcases held.only reads with ⟨fields, read, found⟩
  rw [decodes content _ tagged, read, Option.bind_eq_bind, Option.bind_some, found]
  rfl

end Json

end CrdCompiler
