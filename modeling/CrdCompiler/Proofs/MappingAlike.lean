import CrdCompiler.Proofs.ReadingAlike

/-! # Mappings read as their content

A key that is spelled clearly is a text both ways; a collection is no key either way. Maps, records
and raw values are then read alike where their values are.
-/

namespace CrdCompiler

namespace Content

/-- The content has no entries, or one of them has a key that is no name. -/
def IsNameless : Content → Prop
  | .mapping entries => .other ∈ entries.map Prod.fst
  | _ => True

theorem namedEntries?_of_other {entries : List (ContentKey × Content)}
    (other : .other ∈ entries.map Prod.fst) : namedEntries? entries = none := by
  cases named : namedEntries? entries with
  | none => rfl
  | some members =>
      rw [namedEntries?_eq_some_iff.mp named] at other
      simp at other

theorem members_of_nameless {content : Content} (nameless : content.IsNameless) :
    Source.members (m := Option) content = none := by
  cases content with
  | mapping entries => exact namedEntries?_of_other nameless
  | _ => rfl

theorem entriesToJson?_of_other {entries : List (ContentKey × Content)}
    (other : .other ∈ entries.map Prod.fst) (known : List (String × Json)) :
    entriesToJson? known entries = none := by
  induction entries generalizing known with
  | nil => exact absurd other List.not_mem_nil
  | cons entry rest induction =>
      rcases entry with ⟨key, content⟩
      cases key with
      | name name =>
          have later : .other ∈ rest.map Prod.fst := by simpa using other
          rw [entriesToJson?]
          cases content.toJson? with
          | none => rfl
          | some value => exact induction later _
      | position index => rfl
      | other => rfl

theorem itemsToJson?_eq_mapM (items : List Content) : itemsToJson? items = items.mapM toJson? := by
  induction items with
  | nil => rfl
  | cons item rest induction =>
      rw [itemsToJson?, induction, List.mapM_cons]

def memberToJson? (entry : String × Content) : Option (String × Json) := do
  return (entry.1, ← entry.2.toJson?)

theorem entriesToJson?_named (entries : List (String × Content)) (known : List (String × Json)) :
    entriesToJson? known (entries.map fun entry => (.name entry.1, entry.2)) =
      (entries.mapM memberToJson?).map fun members =>
        members.foldl (fun known (name, value) => Json.insertMember name value known) known := by
  induction entries generalizing known with
  | nil => rfl
  | cons entry rest induction =>
      rw [List.map_cons, entriesToJson?, List.mapM_cons, memberToJson?]
      cases entry.2.toJson? with
      | none => rfl
      | some value =>
          simp only [Option.bind_eq_bind, Option.bind_some, induction]
          cases rest.mapM memberToJson? <;> rfl

end Content

namespace Yaml

variable {anchors : List (Nat × Node Nat)} {remaining : Nat} {α : Type}

structure Member (anchors : List (Nat × Node Nat)) (remaining : Nat) where
  entry : Node Nat × Node Nat
  name : String
  content : Content
  named : (Place.mk entry.1 remaining).told? anchors Place.saysText = some name
  said : (Place.mk entry.2 remaining).content? anchors = some content

namespace Member

def place (member : Member anchors remaining) : Place :=
  ⟨member.entry.2, remaining⟩

end Member

namespace Place

theorem key_told {place : Place} {content : Content}
    (clear : place.isSpelled anchors Scalar.isClearText)
    (said : place.content? anchors = some content) :
    (∃ name, place.told? anchors saysText = some name ∧ content.toKey = .name name) ∨
      place.told? anchors saysText = none ∧ content.toKey = .other := by
  have same := told?_text clear said
  cases bears_of_content? said with
  | @scalar node remaining anchor tag style text _ target told =>
      have named : (Place.mk node remaining).told? anchors saysText = some text := by
        rw [told?, target]
        rfl
      rw [named] at same
      cases content with
      | text name =>
          cases same
          exact .inl ⟨_, named, rfl⟩
      | _ => cases same
  | @sequence node remaining anchor tag items contents target own told =>
      exact .inr ⟨same, rfl⟩
  | @mapping node remaining anchor tag entries contents target own told =>
      exact .inr ⟨same, rfl⟩

/-- Either all keys have names, or one has none and the mapping is refused both ways. -/
theorem members_of_entries {entries : List (Node Nat × Node Nat)}
    {contents : List (ContentKey × Content)}
    (told : entries.mapM (entryContent? (Node.contentOf? anchors remaining)) = some contents)
    (keys : ∀ entry ∈ entries, (Place.mk entry.1 remaining).isSpelled anchors Scalar.isClearText) :
    (∃ members : List (Member anchors remaining),
      entries = members.map Member.entry ∧
        contents = members.map fun member => (.name member.name, member.content)) ∨
      (∃ entry ∈ entries, (Place.mk entry.1 remaining).told? anchors saysText = none) ∧
        .other ∈ contents.map Prod.fst := by
  induction entries generalizing contents with
  | nil =>
      cases told
      exact .inl ⟨[], rfl, rfl⟩
  | cons entry rest induction =>
      rcases entry with ⟨key, value⟩
      rcases List.forall_mem_cons.mp keys with ⟨clear, others⟩
      rcases mapM_cons_eq_some told with ⟨said, later, first, toldRest, rfl⟩
      rcases entryContent?_eq_some first with ⟨saidKey, content, keySaid, valueSaid, rfl⟩
      rcases key_told clear keySaid with ⟨name, named, keyed⟩ | ⟨unnamed, keyed⟩
      · rcases induction toldRest others with ⟨members, rfl, rfl⟩ | ⟨⟨entry, member, lost⟩, other⟩
        · refine .inl ⟨⟨(key, value), name, content, named, valueSaid⟩ :: members, rfl, ?_⟩
          rw [List.map_cons, keyed]
        · exact .inr ⟨⟨entry, List.mem_cons_of_mem _ member, lost⟩, List.mem_cons_of_mem _ other⟩
      · refine .inr ⟨⟨_, List.mem_cons_self, unnamed⟩, ?_⟩
        rw [List.map_cons, keyed]
        exact List.mem_cons_self

/-! ## Direct entries -/

theorem answers_entries {node : Node Nat} {anchor tag : Option String}
    {entries : List (Node Nat × Node Nat)}
    (target : meant? anchors node = some (.mapping anchor tag entries)) (remaining : Nat) :
    Answers anchors (Place.entries ⟨node, remaining + 1⟩)
      (node.references + (entries.map fun entry => entry.1.references).sum)
      (entries.mapM fun entry =>
        ((Place.mk entry.1 remaining).told? anchors saysText).map (·, ⟨entry.2, remaining⟩)) := by
  have run : Answers anchors
      (entries.mapM fun entry => do
        return (← (Place.mk entry.1 remaining).text, Place.mk entry.2 remaining))
      (entries.map fun entry => entry.1.references).sum
      (entries.mapM fun entry =>
        ((Place.mk entry.1 remaining).told? anchors saysText).map (·, ⟨entry.2, remaining⟩)) := by
    apply Answers.mapM
    intro entry member
    exact (answers_scalar saysText entry.1 remaining).map (·, Place.mk entry.2 remaining)
  exact .after_follow target run

theorem answers_members {node : Node Nat} {anchor tag : Option String}
    {members : List (Member anchors remaining)}
    (target : meant? anchors node =
      some (.mapping anchor tag (members.map Member.entry))) :
    Answers anchors (Place.entries ⟨node, remaining + 1⟩)
      (node.references + (members.map fun member => member.entry.1.references).sum)
      (some (members.map fun member => (member.name, member.place))) := by
  have found := answers_entries target remaining
  rw [List.map_map, List.mapM_map] at found
  have named : members.mapM ((fun entry : Node Nat × Node Nat =>
      ((Place.mk entry.1 remaining).told? anchors saysText).map (·, Place.mk entry.2 remaining)) ∘
        Member.entry) =
      some (members.map fun member => (member.name, member.place)) := by
    rw [← Option.pure_def, ← List.mapM_pure]
    apply Outcome.mapM_congr
    intro member held
    rw [Function.comp_apply, member.named]
    rfl
  rw [named] at found
  exact found

/-! ## Maps -/

/-- No map is empty by being left blank, its keys are spelled clearly, and its values are told by
`each` under their names. -/
def entriesAreClear (anchors : List (Nat × Node Nat)) (each : String → Place → Bool)
    (place : Place) : Bool :=
  match meant? anchors place.node, place.remaining with
  | some (.mapping _ _ entries), remaining + 1 => entries.all fun entry =>
      (Place.mk entry.1 remaining).isSpelled anchors Scalar.isClearText &&
        ((Place.mk entry.1 remaining).told? anchors saysText).all fun name =>
          each name ⟨entry.2, remaining⟩
  | some inner, remaining => !(Place.mk inner remaining).isBlank
  | none, _ => true

theorem members_le_price {node : Node Nat} {anchor tag : Option String}
    {members : List (Member anchors remaining)}
    (target : meant? anchors node =
      some (.mapping anchor tag (members.map Member.entry))) :
    node.references + (members.map fun member => member.entry.1.references).sum +
        (members.map fun member => member.place.price anchors).sum ≤
      (Place.mk node (remaining + 1)).price anchors := by
  rw [price_of_mapping target, List.map_map, Nat.add_assoc, ← List.sum_map_add]
  apply Nat.add_le_add_left
  apply List.sum_le_sum
  intro member _
  exact Nat.add_le_add_right (references_le_price member.entry.1 remaining) _

/-- How the entries of a place are read when they are clear: all of them, or none. -/
inductive EntriesRead (anchors : List (Nat × Node Nat)) (each : String → Place → Bool) :
    Place → Content → Prop where
  | members {node : Node Nat} {remaining : Nat} {anchor tag : Option String}
      (members : List (Member anchors remaining))
      (target : meant? anchors node =
        some (.mapping anchor tag (members.map Member.entry)))
      (alike : ∀ member ∈ members, each member.name member.place) :
      EntriesRead anchors each ⟨node, remaining + 1⟩
        (.mapping (members.map fun member => (.name member.name, member.content)))
  | refused {place : Place} {content : Content}
      (refused : Answers anchors place.entries (place.price anchors) none)
      (nameless : content.IsNameless) : EntriesRead anchors each place content

theorem entriesRead {each : String → Place → Bool} {place : Place} {content : Content}
    (alike : place.entriesAreClear anchors each) (said : place.content? anchors = some content) :
    EntriesRead anchors each place content := by
  cases bears_of_content? said with
  | @scalar node remaining anchor tag style text _ target told =>
      have refused : Answers anchors (Place.entries ⟨node, remaining⟩) node.references none := by
        have written : ¬(Place.mk (.scalar anchor tag style text) remaining).isBlank := by
          rw [entriesAreClear, target] at alike
          simpa using alike
        rw [Place.entries, ← Nat.add_zero node.references]
        apply Answers.after_follow target
        rw [if_neg written]
        exact .failure
      refine .refused (refused.mono (references_le_price _ _)) ?_
      have flat := Scalar.content?_flat told
      cases content with
      | mapping entries => exact absurd flat (Nat.succ_ne_zero _)
      | _ => trivial
  | @sequence node remaining anchor tag items contents target own told =>
      have refused : Answers anchors (Place.entries ⟨node, remaining + 1⟩) node.references
          none := by
        rw [Place.entries, ← Nat.add_zero node.references]
        exact .after_follow target .failure
      exact .refused (refused.mono (references_le_price _ _)) trivial
  | @mapping node remaining anchor tag entries contents target own told =>
      rw [entriesAreClear, target] at alike
      have keyed : ∀ entry ∈ entries,
          (Place.mk entry.1 remaining).isSpelled anchors Scalar.isClearText := by
        intro entry member
        have here := List.all_eq_true.mp alike entry member
        exact (Bool.and_eq_true_iff.mp here).1
      rcases members_of_entries told keyed with ⟨members, rfl, rfl⟩ | ⟨⟨entry, member, lost⟩, other⟩
      · refine .members members target ?_
        intro member held
        have here := List.all_eq_true.mp alike _ (List.mem_map_of_mem held)
        rw [member.named] at here
        exact (Bool.and_eq_true_iff.mp here).2
      · have found := answers_entries target remaining
        rw [mapM_eq_none member (by rw [lost]; rfl)] at found
        refine .refused (found.mono ?_) other
        rw [price_of_mapping target]
        apply Nat.add_le_add_left
        apply List.sum_le_sum
        intro entry _
        exact (references_le_price entry.1 remaining).trans (Nat.le_add_right _ _)

theorem ReadsAs.members {reader : Place → Reader α} {decode : Content → Option α}
    {each : Place → Bool} {place : Place}
    (reads : ∀ value : Place, each value → ReadsAs anchors reader decode value)
    (alike : place.entriesAreClear anchors fun _ => each) :
    ReadsAs anchors (readMembers reader) (readMembers decode) place := by
  intro content said
  cases entriesRead alike said with
  | refused refused nameless =>
      rw [readMembers, readMembers, Content.members_of_nameless nameless]
      exact refused.bind_none
  | @members node remaining anchor tag members target valuesAlike =>
      have run : Answers anchors
          ((members.map fun member => (member.name, member.place)).mapM fun part => do
            return (part.1, ← reader part.2))
          (members.map fun member => member.place.price anchors).sum
          ((members.map fun member => (member.name, member.content)).mapM fun part => do
            return (part.1, ← decode part.2)) := by
        rw [List.mapM_map, List.mapM_map]
        apply Answers.mapM
        intro member held
        exact (reads _ (valuesAlike member held) member.content member.said).bind
          fun value _ => .pure (member.name, value)
      have named : Source.members (m := Option)
          (Content.mapping (members.map fun member => (.name member.name, member.content))) =
          some (members.map fun member => (member.name, member.content)) :=
        Content.namedEntries?_eq_some_iff.mpr (by rw [List.map_map]; rfl)
      rw [readMembers, readMembers, named]
      refine Answers.mono ?_ (members_le_price target)
      apply (answers_members target).bind_some
      exact run.bind fun values _ =>
        .pure (values.foldl (fun known value => putMember known value.1 value.2) [])

end Place

/-! ## Raw values -/

/-- The keys of all mappings in the node are spelled clearly. -/
def Node.rawIsClear (anchors : List (Nat × Node Nat)) : Nat → Node Nat → Bool
  | remaining, node =>
    match meant? anchors node, remaining with
    | some (.sequence _ _ items), remaining + 1 => items.all (rawIsClear anchors remaining)
    | some (.mapping _ _ entries), remaining + 1 => entries.all fun entry =>
        (Place.mk entry.1 remaining).isSpelled anchors Scalar.isClearText &&
          rawIsClear anchors remaining entry.2
    | _, _ => true

namespace Place

def rawMember? (anchors : List (Nat × Node Nat)) (remaining : Nat)
    (entry : Node Nat × Node Nat) : Option (String × Json) := do
  return (← (Place.mk entry.1 remaining).told? anchors saysText,
    ← ((Place.mk entry.2 remaining).content? anchors).bind Content.toJson?)

theorem entriesToJson?_of_entries {entries : List (Node Nat × Node Nat)}
    {contents : List (ContentKey × Content)}
    (told : entries.mapM (entryContent? (Node.contentOf? anchors remaining)) = some contents)
    (keys : ∀ entry ∈ entries, (Place.mk entry.1 remaining).isSpelled anchors Scalar.isClearText) :
    Content.entriesToJson? [] contents =
      (entries.mapM (rawMember? anchors remaining)).map fun members =>
        members.foldl (fun known (name, value) => Json.insertMember name value known) [] := by
  rcases members_of_entries told keys with ⟨members, rfl, rfl⟩ | ⟨⟨entry, member, lost⟩, other⟩
  · have named := Content.entriesToJson?_named
      (members.map fun member => (member.name, member.content)) []
    rw [List.map_map] at named
    refine named.trans ?_
    rw [List.mapM_map, List.mapM_map]
    congr 1
    apply Outcome.mapM_congr
    intro member _
    rw [Function.comp_apply, Function.comp_apply, rawMember?, member.named, member.said]
    rfl
  · have fails : rawMember? anchors remaining entry = none := by
      rw [rawMember?, lost]
      rfl
    rw [Content.entriesToJson?_of_other other, mapM_eq_none member fails]
    rfl

theorem answers_raw_scalar {node : Node Nat} {anchor tag : Option String} {style : ScalarStyle}
    {text : String} {content : Content}
    (target : meant? anchors node = some (.scalar anchor tag style text))
    (told : Scalar.content? tag style text = some content) (remaining : Nat) :
    Answers anchors (Place.raw remaining node) node.references content.toJson? := by
  have lifted : Answers anchors
      (Fields.lift ((Scalar.content? tag style text).bind Content.toJson?)) 0 content.toJson? := by
    rw [told]
    exact .lift _
  rw [Place.raw.eq_def, ← Nat.add_zero node.references]
  apply Answers.after_follow target
  exact lifted

theorem raw_readsAs {remaining : Nat} {node : Node Nat} (alike : node.rawIsClear anchors remaining) :
    ReadsAs anchors Source.raw Content.toJson? ⟨node, remaining⟩ := by
  induction remaining generalizing node with
  | zero =>
      intro content said
      cases bears_of_content? said with
      | scalar target told =>
          exact (answers_raw_scalar target told 0).mono (references_le_price _ _)
  | succ remaining induction =>
      intro content said
      change Answers anchors (Place.raw (remaining + 1) node) _ _
      rw [Node.rawIsClear.eq_def] at alike
      dsimp only at alike
      cases bears_of_content? said with
      | scalar target told =>
          exact (answers_raw_scalar target told _).mono (references_le_price _ _)
      | @sequence _ _ anchor tag items contents target own told =>
          rw [target] at alike
          have run : Answers anchors (items.mapM (Place.raw remaining))
              (items.map fun item => (Place.mk item remaining).price anchors).sum
              (contents.mapM Content.toJson?) :=
            Answers.mapM_given told fun item member content said =>
              induction (List.all_eq_true.mp alike item member) content said
          rw [Place.raw, price_of_sequence target, Content.toJson?, Content.itemsToJson?_eq_mapM]
          apply Answers.after_follow target
          dsimp only
          rw [own, if_neg Bool.false_ne_true]
          exact run.map Json.array
      | @mapping _ _ anchor tag entries contents target own told =>
          rw [target] at alike
          have each : ∀ entry ∈ entries,
              (Place.mk entry.1 remaining).isSpelled anchors Scalar.isClearText ∧
              entry.2.rawIsClear anchors remaining := by
            intro entry member
            exact Bool.and_eq_true_iff.mp (List.all_eq_true.mp alike entry member)
          have run : Answers anchors
              (entries.mapM fun entry => do
                return (← (Place.mk entry.1 remaining).text, ← Place.raw remaining entry.2))
              (entries.map fun entry =>
                entry.1.references + (Place.mk entry.2 remaining).price anchors).sum
              (entries.mapM (rawMember? anchors remaining)) := by
            apply Answers.mapM
            intro entry member
            apply (answers_scalar saysText entry.1 remaining).bind
            intro name _
            rcases exists_of_mapM told member with ⟨said, found⟩
            rcases entryContent?_eq_some found with ⟨_, content, _, saidValue, _⟩
            rw [content?, saidValue]
            exact (induction (each entry member).2 content saidValue).bind
              fun value _ => .pure (name, value)
          have most : (entries.map fun entry =>
                entry.1.references + (Place.mk entry.2 remaining).price anchors).sum ≤
              (entries.map fun entry => (Place.mk entry.1 remaining).price anchors +
                (Place.mk entry.2 remaining).price anchors).sum :=
            List.sum_le_sum fun entry _ =>
              Nat.add_le_add_right (references_le_price entry.1 remaining) _
          rw [Place.raw, price_of_mapping target, Content.toJson?,
            entriesToJson?_of_entries told fun entry member => (each entry member).1]
          refine Answers.mono ?_ (Nat.add_le_add_left most _)
          apply Answers.after_follow target
          dsimp only
          rw [own, if_neg Bool.false_ne_true, Option.map_eq_map, Option.map_map]
          exact run.map _

end Place

end Yaml

end CrdCompiler
