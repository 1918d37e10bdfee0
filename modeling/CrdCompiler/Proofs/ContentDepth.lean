import CrdCompiler.Proofs.NamedMembers
import CrdCompiler.Proofs.Outcome
import CrdCompiler.Proofs.RecordReading
import CrdCompiler.Schema.Reading

/-! # Schemas in content of any depth

A schema is read from content with a depth at hand that only has to be large enough, because the
parts of a record are less deep than the record.
-/

namespace CrdCompiler

namespace Content

theorem mem_positioned {items : List Content} {index : Nat} {key : ContentKey} {part : Content}
    (held : (key, part) ∈ positioned index items) : part ∈ items := by
  induction items generalizing index with
  | nil => exact absurd held List.not_mem_nil
  | cons item rest induction =>
      rcases List.mem_cons.mp held with equal | later
      · cases equal
        exact List.mem_cons_self
      · exact List.mem_cons_of_mem _ (induction later)

theorem namedEntries?_eq_some_iff {entries : List (ContentKey × Content)}
    {members : List (String × Content)} :
    namedEntries? entries = some members ↔
      entries = members.map fun member => (.name member.1, member.2) := by
  constructor
  · intro named
    induction entries generalizing members with
    | nil =>
        cases named
        rfl
    | cons entry rest induction =>
        rcases entry with ⟨_ | _ | _, value⟩
        · rw [namedEntries?, Option.map_eq_map, Option.map_eq_some_iff] at named
          rcases named with ⟨others, named, rfl⟩
          rw [induction named, List.map_cons]
        · cases named
        · cases named
  · intro same
    rw [same, namedEntries?_map]

theorem depth_lt_of_record {content part : Content} {count : Nat} {key : ContentKey}
    {entries : List (ContentKey × Content)}
    (made : Source.record (m := Option) count content = some entries)
    (held : (key, part) ∈ entries) : part.depth < content.depth := by
  cases content with
  | mapping known =>
      cases made
      exact Nat.lt_succ_of_le (depth_le_entriesDepth held)
  | sequence items =>
      rcases Option.ite_none_right_eq_some.mp made with ⟨few, same⟩
      cases same
      exact Nat.lt_succ_of_le (depth_le_itemsDepth (mem_positioned held))
  | _ => cases made

theorem depth_lt_of_members {content part : Content} {name : String}
    {members : List (String × Content)}
    (made : Source.members (m := Option) content = some members)
    (held : (name, part) ∈ members) : part.depth < content.depth := by
  cases content with
  | mapping entries =>
      rw [namedEntries?_eq_some_iff.mp made]
      have entry : ((.name name, part) : ContentKey × Content) ∈
          members.map fun member => (.name member.1, member.2) := List.mem_map.mpr ⟨_, held, rfl⟩
      exact Nat.lt_succ_of_le (depth_le_entriesDepth entry)
  | _ => cases made

end Content

namespace Fields

theorem lift_eq (found : Option α) : (lift found : Option α) = found := by
  cases found <;> rfl

theorem fields_sublist {names : List String} {entries : List (ContentKey × σ)} {fields : Fields σ}
    (made : ofEntries? names entries = some fields) :
    (fields.entries.map fun field => (some (some field.1), field.2)).Sublist
      (entries.map fun entry => (fieldOf? names entry.1, entry.2)) := by
  induction entries generalizing fields with
  | nil =>
      cases made
      exact .slnil
  | cons entry rest induction =>
      rcases entry with ⟨key, value⟩
      rw [ofEntries?, Option.bind_eq_bind, Option.bind_eq_some_iff] at made
      rcases made with ⟨others, madeOthers, made⟩
      rw [Option.bind_eq_bind, Option.bind_eq_some_iff] at made
      rcases made with ⟨field, known, made⟩
      cases field with
      | none =>
          cases made
          exact (induction madeOthers).cons _
      | some name =>
          rcases Option.ite_none_left_eq_some.mp made with ⟨new, same⟩
          cases same
          rw [List.map_cons, List.map_cons, known]
          exact (induction madeOthers).cons_cons _

theorem mem_of_found {names : List String} {entries : List (ContentKey × σ)} {fields : Fields σ}
    (made : ofEntries? names entries = some fields) {name : String} {part : σ}
    (found : fields.entries.lookup name = some part) :
    ∃ key, (key, part) ∈ entries ∧ fieldOf? names key = some (some name) := by
  have field := (fields_sublist made).subset (List.mem_map_of_mem (mem_of_lookup found))
  rcases List.mem_map.mp field with ⟨⟨key, value⟩, entry, same⟩
  cases (Prod.mk.inj same).2
  exact ⟨key, entry, (Prod.mk.inj same).1⟩

section

variable {fields : Fields Content} {name : String} {decode decode' : Content → Option α}

theorem getD_congr {fallback : α}
    (same : ∀ part, fields.entries.lookup name = some part → decode' part = decode part) :
    fields.getD name fallback decode' = fields.getD name fallback decode := by
  rw [getD, getD]
  cases found : fields.entries.lookup name with
  | none => rfl
  | some part => exact same part found

theorem get?_congr
    (same : ∀ part, fields.entries.lookup name = some part → decode' part = decode part) :
    fields.get? name decode' = fields.get? name decode := by
  rw [get?, get?]
  cases found : fields.entries.lookup name with
  | none => rfl
  | some part =>
      dsimp only
      apply Option.bind_congr
      intro present told
      cases part with
      | null => cases told; rfl
      | _ => cases told; simp [same _ found]

end

end Fields

theorem readMembers_congr {content : Content} {decode decode' : Content → Option α}
    (same : ∀ part : Content, part.depth < content.depth → decode' part = decode part) :
    readMembers decode' content = readMembers decode content := by
  rw [readMembers, readMembers]
  apply Option.bind_congr
  intro members made
  rw [Outcome.mapM_congr]
  intro member held
  dsimp only
  rw [same _ (Content.depth_lt_of_members made held)]

namespace SchemaNode

theorem readWith_congr {content : Content} {node node' : Content → Option SchemaNode}
    {values values' : Content → Option (AdditionalProperties SchemaNode)}
    (nodes : ∀ part : Content, part.depth < content.depth → node' part = node part)
    (valued : ∀ part : Content, part.depth < content.depth → values' part = values part) :
    readWith node' values' content = readWith node values content := by
  rw [readWith, readWith]
  apply Option.bind_congr
  intro fields made
  rcases Option.bind_eq_some_iff.mp made with ⟨entries, record, fielded⟩
  rw [Fields.lift_eq] at fielded
  have below : ∀ name part, fields.entries.lookup name = some part →
      part.depth < content.depth := by
    intro name part found
    rcases Fields.mem_of_found fielded found with ⟨key, entry, _⟩
    exact Content.depth_lt_of_record record entry
  have properties : fields.getD "properties" [] (readMembers node') =
      fields.getD "properties" [] (readMembers node) := by
    apply Fields.getD_congr
    intro part found
    exact readMembers_congr fun inner deeper => nodes inner (deeper.trans (below _ _ found))
  have additional : fields.get? "additionalProperties" values' =
      fields.get? "additionalProperties" values :=
    Fields.get?_congr fun part found => valued part (below _ _ found)
  have items : fields.get? "items" node' = fields.get? "items" node :=
    Fields.get?_congr fun part found => nodes part (below _ _ found)
  rw [properties, additional, items]

theorem valuesOf?_congr {content : Content} {node node' : Content → Option SchemaNode}
    (same : node' content = node content) : valuesOf? node' content = valuesOf? node content := by
  cases content <;> simp only [valuesOf?, same]

theorem ofNested?_of_flat {content : Content} (flat : content.depth = 0) (depth : Nat) :
    ofNested? depth content = none := by
  cases depth with
  | zero => rfl
  | succ depth =>
      cases content with
      | sequence items => exact absurd flat (Nat.succ_ne_zero _)
      | mapping entries => exact absurd flat (Nat.succ_ne_zero _)
      | _ => rfl

/-- Any two depths do that are large enough. -/
theorem ofNested?_eq_ofNested? {content : Content} {depth depth' : Nat}
    (deep : content.depth ≤ depth) (deep' : content.depth ≤ depth') :
    ofNested? depth' content = ofNested? depth content := by
  induction depth generalizing content depth' with
  | zero => rw [ofNested?_of_flat (Nat.le_zero.mp deep), ofNested?_of_flat (Nat.le_zero.mp deep)]
  | succ depth induction =>
      cases depth' with
      | zero =>
          rw [ofNested?_of_flat (Nat.le_zero.mp deep'), ofNested?_of_flat (Nat.le_zero.mp deep')]
      | succ depth' =>
          have below : ∀ part : Content, part.depth < content.depth →
              ofNested? depth' part = ofNested? depth part := by
            intro part deeper
            exact induction (by omega) (by omega)
          exact readWith_congr below fun part deeper => valuesOf?_congr (below part deeper)

theorem ofNested?_eq_ofContent? {content : Content} {depth : Nat} (deep : content.depth ≤ depth) :
    ofNested? depth content = ofContent? content :=
  ofNested?_eq_ofNested? le_rfl deep

theorem ofContent?_eq (content : Content) :
    ofContent? content = readWith ofContent? valuesOfContent? content := by
  rw [← ofNested?_eq_ofContent? (Nat.le_succ content.depth), ofNested?]
  have below : ∀ part : Content, part.depth < content.depth →
      ofNested? content.depth part = ofContent? part :=
    fun part deeper => ofNested?_eq_ofContent? deeper.le
  exact readWith_congr below fun part deeper => valuesOf?_congr (below part deeper)

end SchemaNode

end CrdCompiler
