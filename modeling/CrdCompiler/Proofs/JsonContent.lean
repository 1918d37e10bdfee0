import CrdCompiler.Content
import Mathlib.Data.List.Basic
import Mathlib.Data.String.Basic

/-! # JSON values as content

A JSON value and the content made of it say the same. Content forgets in which order the members of
a value came, so a value is found again when its members ascend.
-/

namespace CrdCompiler

namespace Json

/-- The members of every object in the value come in ascending order of their names. -/
inductive HasSortedMembers : Json → Prop where
  | null : HasSortedMembers .null
  | bool (value : Bool) : HasSortedMembers (.bool value)
  | number (value : JsonNumber) : HasSortedMembers (.number value)
  | string (text : String) : HasSortedMembers (.string text)
  | array {items : List Json} (all : ∀ item ∈ items, item.HasSortedMembers) :
      HasSortedMembers (.array items)
  | object {members : List (String × Json)} (ascending : (members.map Prod.fst).Pairwise (· < ·))
      (all : ∀ name value, (name, value) ∈ members → value.HasSortedMembers) :
      HasSortedMembers (.object members)

theorem insertMember_of_greatest {name : String} {members : List (String × Json)}
    (greatest : ∀ first ∈ members.map Prod.fst, first < name) (value : Json) :
    insertMember name value members = members ++ [(name, value)] := by
  induction members with
  | nil => rfl
  | cons member rest induction =>
      have after := greatest member.1 List.mem_cons_self
      have others := induction fun first member => greatest first (List.mem_cons_of_mem _ member)
      rw [insertMember, if_neg (lt_asymm after), if_neg (ne_of_gt after), others, List.cons_append]

theorem mem_insertMember {name : String} {value : Json} {members : List (String × Json)}
    {member : String × Json} (found : member ∈ insertMember name value members) :
    member = (name, value) ∨ member ∈ members := by
  induction members with
  | nil => exact .inl (List.mem_singleton.mp found)
  | cons first rest induction =>
      rw [insertMember] at found
      split at found
      · exact List.mem_cons.mp found
      · split at found
        · exact (List.mem_cons.mp found).imp_right (List.mem_cons_of_mem _)
        · rcases List.mem_cons.mp found with equal | later
          · exact .inr (equal ▸ List.mem_cons_self)
          · exact (induction later).imp_right (List.mem_cons_of_mem _)

theorem insertMember_ascending {name : String} {value : Json} {members : List (String × Json)}
    (ascending : (members.map Prod.fst).Pairwise (· < ·)) :
    ((insertMember name value members).map Prod.fst).Pairwise (· < ·) := by
  induction members with
  | nil => exact List.pairwise_singleton _ _
  | cons first rest induction =>
      rw [List.map_cons, List.pairwise_cons] at ascending
      rcases ascending with ⟨least, others⟩
      rw [insertMember]
      split
      · rename_i before
        refine .cons ?_ (.cons least others)
        intro later held
        rcases List.mem_cons.mp held with rfl | held
        · exact before
        · exact before.trans (least later held)
      · rename_i notBefore
        split
        · rename_i same
          exact .cons (same ▸ least) others
        · rename_i different
          refine .cons ?_ (induction others)
          intro later held
          rcases List.mem_map.mp held with ⟨member, found, rfl⟩
          rcases mem_insertMember found with rfl | found
          · exact lt_of_le_of_ne (not_lt.mp notBefore) (Ne.symm different)
          · exact least _ (List.mem_map_of_mem found)

end Json

namespace Content

theorem itemsOfJson_eq_map (items : List Json) : itemsOfJson items = items.map ofJson := by
  induction items with
  | nil => rfl
  | cons item rest induction => rw [itemsOfJson, induction, List.map_cons]

theorem entriesOfJson_eq_map (members : List (String × Json)) :
    entriesOfJson members = members.map fun member => (.name member.1, ofJson member.2) := by
  induction members with
  | nil => rfl
  | cons member rest induction => rw [entriesOfJson, induction, List.map_cons]

/-! ## Depth -/

theorem depth_le_entriesDepth {entries : List (ContentKey × Content)} {key : ContentKey}
    {content : Content} (member : (key, content) ∈ entries) :
    content.depth ≤ entriesDepth entries := by
  induction entries with
  | nil => exact absurd member List.not_mem_nil
  | cons entry rest induction =>
      rw [entriesDepth]
      rcases List.mem_cons.mp member with equal | member
      · cases equal
        exact Nat.le_max_left _ _
      · exact (induction member).trans (Nat.le_max_right _ _)

theorem depth_le_itemsDepth {items : List Content} {item : Content} (member : item ∈ items) :
    item.depth ≤ itemsDepth items := by
  induction items with
  | nil => exact absurd member List.not_mem_nil
  | cons first rest induction =>
      rw [itemsDepth]
      rcases List.mem_cons.mp member with rfl | member
      · exact Nat.le_max_left _ _
      · exact (induction member).trans (Nat.le_max_right _ _)

theorem depth_ofJson_item_lt {items : List Json} {item : Json} (member : item ∈ items) :
    (ofJson item).depth < (ofJson (.array items)).depth := by
  rw [ofJson, depth, itemsOfJson_eq_map]
  exact Nat.lt_succ_of_le (depth_le_itemsDepth (List.mem_map_of_mem member))

theorem depth_ofJson_lt {members : List (String × Json)} {name : String} {value : Json}
    (member : (name, value) ∈ members) :
    (ofJson value).depth < (ofJson (.object members)).depth := by
  rw [ofJson, depth, entriesOfJson_eq_map]
  have entry : ((.name name, ofJson value) : ContentKey × Content) ∈
      members.map fun member => (.name member.1, ofJson member.2) :=
    List.mem_map.mpr ⟨_, member, rfl⟩
  exact Nat.lt_succ_of_le (depth_le_entriesDepth entry)

/-! ## Values found again -/

theorem itemsToJson?_map_ofJson {items : List Json}
    (each : ∀ item ∈ items, (ofJson item).toJson? = some item) :
    itemsToJson? (items.map ofJson) = some items := by
  induction items with
  | nil => rfl
  | cons item rest induction =>
      have first := each item List.mem_cons_self
      have others := induction fun item member => each item (List.mem_cons_of_mem _ member)
      rw [List.map_cons, itemsToJson?, first, others]
      rfl

theorem entriesToJson?_map_ofJson (known : List (String × Json)) {members : List (String × Json)}
    (ascending : ((known ++ members).map Prod.fst).Pairwise (· < ·))
    (each : ∀ name value, (name, value) ∈ members → (ofJson value).toJson? = some value) :
    entriesToJson? known (members.map fun member => (.name member.1, ofJson member.2)) =
      some (known ++ members) := by
  induction members generalizing known with
  | nil => rw [List.map_nil, entriesToJson?, List.append_nil]
  | cons member rest induction =>
      rcases member with ⟨name, value⟩
      have first := each name value List.mem_cons_self
      have greatest : ∀ earlier ∈ known.map Prod.fst, earlier < name := by
        rw [List.map_append, List.pairwise_append] at ascending
        intro earlier held
        exact ascending.2.2 earlier held name List.mem_cons_self
      have others := induction (known ++ [(name, value)])
        (by rwa [List.append_assoc, List.singleton_append])
        fun name value member => each name value (List.mem_cons_of_mem _ member)
      rw [List.append_assoc, List.singleton_append] at others
      rw [List.map_cons, entriesToJson?, first, Option.bind_eq_bind, Option.bind_some,
        Json.insertMember_of_greatest greatest, others]

theorem toJson?_ofJson {json : Json} (sorted : json.HasSortedMembers) :
    (ofJson json).toJson? = some json := by
  induction sorted with
  | null => rfl
  | bool value => rfl
  | number value => cases value <;> rfl
  | string text => rfl
  | array all induction =>
      rw [ofJson, itemsOfJson_eq_map, toJson?, itemsToJson?_map_ofJson induction]
      rfl
  | object ascending all induction =>
      rw [ofJson, entriesOfJson_eq_map, toJson?,
        entriesToJson?_map_ofJson [] ascending induction]
      rfl

/-! ## Values made of content -/

mutual

/-- Any JSON value made of content has sorted members. -/
theorem hasSortedMembers_of_toJson? {content : Content} {json : Json}
    (made : content.toJson? = some json) : json.HasSortedMembers := by
  cases content with
  | null =>
      cases made
      exact .null
  | bool value =>
      cases made
      exact .bool value
  | integer number =>
      cases made
      exact .number _
  | minusZero =>
      cases made
      exact .number _
  | float value =>
      cases made
      cases value with
      | finite value => exact .number _
      | _ => exact .null
  | text text =>
      cases made
      exact .string text
  | sequence items =>
      rw [toJson?, Option.map_eq_map, Option.map_eq_some_iff] at made
      rcases made with ⟨values, made, rfl⟩
      exact .array (hasSortedMembers_of_itemsToJson? made)
  | mapping entries =>
      rw [toJson?, Option.map_eq_map, Option.map_eq_some_iff] at made
      rcases made with ⟨members, made, rfl⟩
      rcases hasSortedMembers_of_entriesToJson? .nil (by simp) made with ⟨ascending, all⟩
      exact .object ascending all

theorem hasSortedMembers_of_itemsToJson? {items : List Content} {values : List Json}
    (made : itemsToJson? items = some values) : ∀ value ∈ values, value.HasSortedMembers := by
  cases items with
  | nil =>
      cases made
      exact fun _ member => absurd member List.not_mem_nil
  | cons item rest =>
      rw [itemsToJson?, Option.bind_eq_bind, Option.bind_eq_some_iff] at made
      rcases made with ⟨first, itemMade, made⟩
      rw [Option.bind_eq_bind, Option.bind_eq_some_iff] at made
      rcases made with ⟨others, restMade, collected⟩
      cases collected
      intro value member
      rcases List.mem_cons.mp member with rfl | member
      · exact hasSortedMembers_of_toJson? itemMade
      · exact hasSortedMembers_of_itemsToJson? restMade value member

theorem hasSortedMembers_of_entriesToJson? {known members : List (String × Json)}
    {entries : List (ContentKey × Content)}
    (ascending : (known.map Prod.fst).Pairwise (· < ·))
    (all : ∀ name value, (name, value) ∈ known → value.HasSortedMembers)
    (made : entriesToJson? known entries = some members) :
    (members.map Prod.fst).Pairwise (· < ·) ∧
      ∀ name value, (name, value) ∈ members → value.HasSortedMembers := by
  cases entries with
  | nil =>
      cases made
      exact ⟨ascending, all⟩
  | cons entry rest =>
      rcases entry with ⟨key, content⟩
      cases key with
      | name name =>
          rw [entriesToJson?, Option.bind_eq_bind, Option.bind_eq_some_iff] at made
          rcases made with ⟨value, contentMade, made⟩
          refine hasSortedMembers_of_entriesToJson? (Json.insertMember_ascending ascending) ?_ made
          intro other held member
          rcases Json.mem_insertMember member with equal | member
          · cases equal
            exact hasSortedMembers_of_toJson? contentMade
          · exact all other held member
      | position index => cases made
      | other => cases made

end

end Content

end CrdCompiler
