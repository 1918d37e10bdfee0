import CrdCompiler.Proofs.JsonContent
import CrdCompiler.Proofs.NamedMembers
import CrdCompiler.Reading

/-! # Records read back

A record is written from slots, one for each of its fields: a slot that is empty is left out of the
object. Whatever the slots hold, reading the record gives each field what its slot holds. Lists and
maps are read back part by part.
-/

namespace CrdCompiler

@[simp] theorem Integer64.toUInt64?_ofUInt64 (word : UInt64) :
    (ofUInt64 word).toUInt64? = some word := by
  simp [toUInt64?, ofUInt64]

/-! ## Slots -/

def Json.filled (slots : List (String × Option Json)) : List (String × Json) :=
  slots.filterMap fun slot => slot.2.map (slot.1, ·)

theorem Json.mem_filled {slots : List (String × Option Json)} {name : String} {value : Json} :
    (name, value) ∈ Json.filled slots ↔ (name, some value) ∈ slots := by
  rw [Json.filled, List.mem_filterMap]
  constructor
  · intro holds
    rcases holds with ⟨⟨held, content⟩, member, written⟩
    cases content with
    | none => exact absurd written (by simp)
    | some content =>
        cases Option.some.inj written
        exact member
  · intro member
    exact ⟨_, member, rfl⟩

theorem Json.filled_names_sublist (slots : List (String × Option Json)) :
    ((Json.filled slots).map Prod.fst).Sublist (slots.map Prod.fst) := by
  induction slots with
  | nil => exact .slnil
  | cons slot rest induction =>
      rcases slot with ⟨name, content⟩
      cases content with
      | none => exact induction.cons name
      | some value => exact induction.cons_cons name

theorem Content.present?_ofJson {json : Json} (told : json ≠ .null) :
    Source.present? (m := Option) (ofJson json) = some (some (ofJson json)) := by
  cases json with
  | null => exact absurd rfl told
  | number number => cases number <;> rfl
  | _ => rfl

namespace Fields

theorem ofEntries?_named {names : List String} {members : List (String × σ)}
    (known : members.map Prod.fst ⊆ names) (distinct : (members.map Prod.fst).Nodup) :
    ofEntries? names (members.map fun member => (.name member.1, member.2)) = some ⟨members⟩ := by
  induction members with
  | nil => rfl
  | cons member rest induction =>
      rw [List.map_cons] at known distinct
      rcases List.cons_subset.mp known with ⟨field, others⟩
      rcases List.nodup_cons.mp distinct with ⟨fresh, apart⟩
      rw [List.map_cons, ofEntries?, induction others apart]
      simp only [Option.bind_eq_bind, Option.bind_some, fieldOf?, List.contains_iff_mem, field,
        if_true, lookup_of_notMem fresh]
      rfl

def ofSlots (slots : List (String × Option Json)) : Fields Content :=
  ⟨(Json.filled slots).map fun member => (member.1, Content.ofJson member.2)⟩

section

variable {slots : List (String × Option Json)} (distinct : (slots.map Prod.fst).Nodup)

include distinct

theorem read_filled :
    read (m := Option) (slots.map Prod.fst) (Content.ofJson (.object (Json.filled slots))) =
      some (ofSlots slots) := by
  have names : (ofSlots slots).entries.map Prod.fst = (Json.filled slots).map Prod.fst := by
    rw [ofSlots, List.map_map]
    rfl
  have sublist := Json.filled_names_sublist slots
  have fields := ofEntries?_named (names.symm ▸ sublist.subset)
    (names.symm ▸ sublist.nodup distinct)
  rw [Content.ofJson, Content.entriesOfJson_eq_map]
  rw [ofSlots, List.map_map] at fields
  exact congrArg (fun found => (lift found : Option (Fields Content))) fields

theorem lookup_ofSlots {name : String} {content : Option Json} (slot : (name, content) ∈ slots) :
    (ofSlots slots).entries.lookup name = content.map Content.ofJson := by
  have filled := (Json.filled_names_sublist slots).nodup distinct
  have held : (Json.filled slots).lookup name = content := by
    ext value
    rw [lookup_eq_some_iff_mem filled, Json.mem_filled]
    constructor
    · intro member
      exact eq_of_mem_of_mem distinct slot member
    · intro equal
      rwa [equal] at slot
  rw [ofSlots, lookup_map_values, held]

variable {name : String} {decode : Content → Option α}

theorem getD_empty (slot : (name, none) ∈ slots) (fallback : α) :
    (ofSlots slots).getD name fallback decode = some fallback := by
  rw [getD, lookup_ofSlots distinct slot]
  rfl

theorem getD_filled {json : Json} {value : α} (slot : (name, some json) ∈ slots) (fallback : α)
    (reads : decode (Content.ofJson json) = some value) :
    (ofSlots slots).getD name fallback decode = some value := by
  rw [getD, lookup_ofSlots distinct slot]
  exact reads

theorem get?_empty (slot : (name, none) ∈ slots) :
    (ofSlots slots).get? name decode = some none := by
  rw [get?, lookup_ofSlots distinct slot]
  rfl

theorem get?_filled {json : Json} {value : α} (slot : (name, some json) ∈ slots)
    (told : json ≠ .null) (reads : decode (Content.ofJson json) = some value) :
    (ofSlots slots).get? name decode = some (some value) := by
  rw [get?, lookup_ofSlots distinct slot, Option.map_some]
  simp only [Content.present?_ofJson told, Option.bind_eq_bind, Option.bind_some, reads]
  rfl

theorem get?_map {encode : α → Json} {stored : Option α}
    (slot : (name, stored.map encode) ∈ slots) (told : ∀ value ∈ stored, encode value ≠ .null)
    (reads : ∀ value ∈ stored, decode (Content.ofJson (encode value)) = some value) :
    (ofSlots slots).get? name decode = some stored := by
  cases stored with
  | none => exact get?_empty distinct slot
  | some value => exact get?_filled distinct slot (told value rfl) (reads value rfl)

end

end Fields

/-! ## Lists and maps -/

theorem mapM_map_eq_some {write : α → β} {read : β → Option α} {values : List α}
    (reads : ∀ value ∈ values, read (write value) = some value) :
    (values.map write).mapM read = some values := by
  induction values with
  | nil => rfl
  | cons value rest induction =>
      have first := reads value List.mem_cons_self
      have others := induction fun value member => reads value (List.mem_cons_of_mem _ member)
      rw [List.map_cons, List.mapM_cons, first, others]
      rfl

theorem readItems_array {encode : α → Json} {decode : Content → Option α} {values : List α}
    (reads : ∀ value ∈ values, decode (Content.ofJson (encode value)) = some value) :
    readItems decode (Content.ofJson (.array (values.map encode))) = some values := by
  rw [Content.ofJson, Content.itemsOfJson_eq_map, List.map_map]
  exact mapM_map_eq_some reads

theorem Content.namedEntries?_map (members : List (String × Content)) :
    namedEntries? (members.map fun member => (.name member.1, member.2)) = some members := by
  induction members with
  | nil => rfl
  | cons member rest induction =>
      rw [List.map_cons, namedEntries?, induction]
      rfl

theorem readMembers_object {encode : α → Json} {decode : Content → Option α}
    {members : List (String × α)} (distinct : (members.map Prod.fst).Nodup)
    (reads : ∀ name value, (name, value) ∈ members →
      decode (Content.ofJson (encode value)) = some value) :
    readMembers decode
        (Content.ofJson (.object (members.map fun member => (member.1, encode member.2)))) =
      some members := by
  have named := Content.namedEntries?_map
    (members.map fun member => (member.1, Content.ofJson (encode member.2)))
  rw [List.map_map] at named
  rw [Content.ofJson, Content.entriesOfJson_eq_map, List.map_map]
  refine Option.bind_eq_some_iff.mpr ⟨_, named, ?_⟩
  refine Option.bind_eq_some_iff.mpr ⟨members, mapM_map_eq_some ?_, ?_⟩
  · intro member held
    refine Option.bind_eq_some_iff.mpr ⟨member.2, reads member.1 member.2 held, ?_⟩
    rfl
  · exact congrArg some (foldl_putMember [] distinct)

end CrdCompiler
