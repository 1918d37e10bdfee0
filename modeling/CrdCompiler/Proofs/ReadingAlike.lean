import CrdCompiler.Proofs.Buffering
import CrdCompiler.Proofs.ContentDepth

/-! # Places read as their content

A place is read directly or as the content that it has. Both come to the same where the scalars, the
keys and the nulls in it are spelled clearly, which can be told from the nodes alone.
-/

namespace CrdCompiler.Yaml

variable {anchors : List (Nat × Node Nat)} {α : Type}

namespace Place

/-! ## Direct reading and reading of content -/

def ReadsAs (anchors : List (Nat × Node Nat)) (reader : Place → Reader α)
    (decode : Content → Option α) (place : Place) : Prop :=
  ∀ content, place.content? anchors = some content →
    Answers anchors (reader place) (place.price anchors) (decode content)

/-! ## Scalars -/

def told? (anchors : List (Nat × Node Nat))
    (say : Option String → ScalarStyle → String → Option α) (place : Place) : Option α :=
  match meant? anchors place.node with
  | some (.scalar _ tag style text) => say tag style text
  | _ => none

def isSpelled (anchors : List (Nat × Node Nat))
    (clear : Option String → ScalarStyle → String → Bool) (place : Place) : Bool :=
  match meant? anchors place.node with
  | some (.scalar _ tag style text) => clear tag style text
  | _ => true

def scalar (say : Option String → ScalarStyle → String → Option α) (place : Place) :
    Reader α := do
  match (← place.follow).node with
  | .scalar _ tag style text => Fields.lift (say tag style text)
  | _ => failure

theorem answers_scalar (say : Option String → ScalarStyle → String → Option α) (node : Node Nat)
    (remaining : Nat) :
    Answers anchors (scalar say ⟨node, remaining⟩) node.references
      ((Place.mk node remaining).told? anchors say) := by
  rw [told?, scalar]
  cases target : meant? anchors node with
  | none =>
      have followed := (takes_follow anchors remaining node).answers
      rw [target] at followed
      exact followed.bind_none
  | some inner =>
      rw [← Nat.add_zero node.references]
      apply Answers.after_follow target
      cases inner with
      | scalar anchor tag style text => exact .lift _
      | _ => exact .failure

theorem told?_eq_of_isSpelled {say : Option String → ScalarStyle → String → Option α}
    {decode : Content → Option α} {clear : Option String → ScalarStyle → String → Bool}
    (scalars : ∀ tag style text content, clear tag style text →
      Scalar.content? tag style text = some content → say tag style text = decode content)
    (sequences : ∀ items, decode (.sequence items) = none)
    (mappings : ∀ entries, decode (.mapping entries) = none) {place : Place} {content : Content}
    (spelled : place.isSpelled anchors clear)
    (said : place.content? anchors = some content) : place.told? anchors say = decode content := by
  cases bears_of_content? said with
  | scalar target told =>
      rw [isSpelled, target] at spelled
      rw [told?, target]
      exact scalars _ _ _ _ spelled told
  | sequence target own told => rw [told?, target, sequences]
  | mapping target own told => rw [told?, target, mappings]

theorem ReadsAs.scalar {say : Option String → ScalarStyle → String → Option α}
    {decode : Content → Option α} {place : Place}
    (same : ∀ content, place.content? anchors = some content →
      place.told? anchors say = decode content) :
    ReadsAs anchors (scalar say) decode place := by
  intro content said
  rw [← same content said]
  exact (answers_scalar say place.node place.remaining).mono (references_le_price _ _)

def saysText (_ : Option String) (_ : ScalarStyle) (text : String) : Option String :=
  some text

theorem told?_text {place : Place} {content : Content}
    (spelled : place.isSpelled anchors Scalar.isClearText)
    (said : place.content? anchors = some content) :
    place.told? anchors saysText = Source.text (m := Option) content := by
  refine told?_eq_of_isSpelled ?_ (fun _ => rfl) (fun _ => rfl) spelled said
  intro tag style text content clear told
  rw [Scalar.content?_of_isClearText clear told]
  rfl

theorem ReadsAs.text {place : Place} (spelled : place.isSpelled anchors Scalar.isClearText) :
    ReadsAs anchors Source.text Source.text place :=
  ReadsAs.scalar fun _ => told?_text spelled

/-- What a scalar says that may have the type with the given tag. -/
def saysTyped (expected : String) (decode : String → Option α) (tag : Option String)
    (style : ScalarStyle) (text : String) : Option α :=
  if Scalar.mayBe expected tag style then decode text else none

theorem typed_eq_scalar (expected : String) (decode : String → Option α) :
    typed expected decode = scalar (saysTyped expected decode) := by
  funext place
  rw [typed, scalar]
  congr
  funext inner
  rcases inner with ⟨node, remaining⟩
  cases node with
  | scalar anchor tag style text =>
      dsimp only [saysTyped]
      split <;> rfl
  | _ => rfl

theorem ReadsAs.flag {place : Place} (spelled : place.isSpelled anchors Scalar.isClearFlag) :
    ReadsAs anchors Source.flag Source.flag place := by
  change ReadsAs anchors (typed Scalar.flagTag Scalar.flag?) Source.flag place
  rw [typed_eq_scalar]
  exact ReadsAs.scalar fun _ => told?_eq_of_isSpelled
    (fun _ _ _ _ => Scalar.typed_flag_eq) (fun _ => rfl) (fun _ => rfl) spelled

theorem ReadsAs.unsigned {place : Place}
    (spelled : place.isSpelled anchors Scalar.isClearUnsigned) :
    ReadsAs anchors Source.unsigned Source.unsigned place := by
  change ReadsAs anchors (typed Scalar.integerTag Scalar.unsigned?) Source.unsigned place
  rw [typed_eq_scalar]
  exact ReadsAs.scalar fun _ => told?_eq_of_isSpelled
    (fun _ _ _ _ => Scalar.typed_unsigned_eq) (fun _ => rfl) (fun _ => rfl) spelled

theorem ReadsAs.number {place : Place} (spelled : place.isSpelled anchors Scalar.isClearNumber) :
    ReadsAs anchors Source.number Source.number place := by
  change ReadsAs anchors (typed Scalar.numberTag Scalar.number?) Source.number place
  rw [typed_eq_scalar]
  exact ReadsAs.scalar fun _ => told?_eq_of_isSpelled
    (fun _ _ _ _ => Scalar.typed_number_eq) (fun _ => rfl) (fun _ => rfl) spelled

/-! ## Nulls -/

def saysNull (tag : Option String) (style : ScalarStyle) (text : String) : Option Bool :=
  match style, tag with
  | .plain, none => some (text.isEmpty || Scalar.isNull text)
  | .plain, some name =>
    if name = Scalar.nullTag then if Scalar.isNull text then some true else none else some false
  | _, _ => some false

theorem content?_of_isClearNull {tag : Option String} {style : ScalarStyle} {text : String}
    (null : Scalar.isClearNull tag style text) :
    Scalar.content? tag style text = some .null ∧ saysNull tag style text = some true := by
  rcases Bool.and_eq_true_iff.mp null with ⟨plain, null⟩
  cases of_decide_eq_true plain
  cases tag with
  | none =>
      have blank : text.isEmpty || Scalar.isNull text := by simpa [Scalar.isClearNull] using null
      exact ⟨(Scalar.plainContent?_eq_null_iff text).mpr blank, congrArg some blank⟩
  | some name =>
      have own : name = Scalar.nullTag ∧ Scalar.isNull text := by
        simpa [Scalar.isClearNull] using null
      rcases own with ⟨rfl, word⟩
      rw [Scalar.content?, saysNull, word]
      exact ⟨rfl, rfl⟩

theorem content?_of_not_isClearNull {tag : Option String} {style : ScalarStyle} {text : String}
    (written : ¬Scalar.isClearNull tag style text) (other : tag ≠ some Scalar.nullTag) :
    Scalar.content? tag style text ≠ some .null ∧ saysNull tag style text = some false := by
  cases tag with
  | none =>
      cases style with
      | plain =>
          have present : ¬(text.isEmpty || Scalar.isNull text) := by
            simpa [Scalar.isClearNull] using written
          exact ⟨fun null => present ((Scalar.plainContent?_eq_null_iff text).mp null),
            congrArg some (Bool.eq_false_iff.mpr present)⟩
      | _ => exact ⟨nofun, rfl⟩
  | some name =>
      have other : name ≠ Scalar.nullTag := fun same => other (congrArg some same)
      constructor
      · intro null
        rw [Scalar.content?, if_neg other] at null
        split_ifs at null
        · rcases Option.map_eq_some_iff.mp null with ⟨_, _, same⟩
          cases same
        · have said := Scalar.integerContent?_eq_some (Option.join_eq_some_iff.mp null)
          rcases Option.map_eq_some_iff.mp said.symm with ⟨number, _, same⟩
          rcases Scalar.signedContent_eq_or text number with form | form <;> rw [form] at same <;>
            cases same
        · rcases Option.map_eq_some_iff.mp null with ⟨_, _, same⟩
          cases same
        · cases null
      · cases style with
        | plain => exact if_neg other
        | _ => rfl

/-- A null is spelled clearly, and what is none has not its tag and is told by `each`. -/
def optionalIsClear (anchors : List (Nat × Node Nat)) (each : Place → Bool) (place : Place) :
    Bool :=
  match meant? anchors place.node with
  | some (.scalar anchor tag style text) => Scalar.isClearNull tag style text ||
      (tag ≠ some Scalar.nullTag && each ⟨.scalar anchor tag style text, place.remaining⟩)
  | some inner => each ⟨inner, place.remaining⟩
  | none => true

end Place

def optional {m : Type → Type} [Monad m] [Source m σ] (decode : σ → m α) (source : σ) :
    m (Option α) := do
  match ← Source.present? (m := m) source with
  | none => return none
  | some source => return some (← decode source)

theorem optional_eq {content : Content} (told : content ≠ .null) (decode : Content → Option α) :
    optional decode content = some <$> decode content := by
  have present : Source.present? (m := Option) content = some (some content) := by
    cases content with
    | null => exact absurd rfl told
    | _ => rfl
  rw [optional, present]
  change (decode content).bind (fun value => some (some value)) = _
  cases decode content <;> rfl

namespace Place

def tellsNull : Node Nat → Option Bool
  | .scalar _ tag style text => saysNull tag style text
  | _ => some false

theorem answers_present {node inner : Node Nat} (target : meant? anchors node = some inner)
    (remaining : Nat) :
    Answers anchors (present? ⟨node, remaining⟩) node.references
      ((tellsNull inner).map fun null => if null then none else some ⟨inner, remaining⟩) := by
  rw [present?, ← Nat.add_zero node.references]
  apply Answers.after_follow target
  cases inner with
  | scalar anchor tag style text =>
      cases style with
      | plain =>
          cases tag with
          | none => exact .pure _
          | some name =>
              dsimp only [tellsNull, saysNull]
              split_ifs
              · exact .pure _
              · exact .failure
              · exact .pure _
      | _ => exact .pure _
  | _ => exact .pure _

theorem answers_optional {node inner : Node Nat} {reader : Place → Reader α} (answer : Option α)
    (target : meant? anchors node = some inner) (direct : inner.references = 0) {remaining : Nat}
    {null : Bool} (told : tellsNull inner = some null)
    (reads : null = false →
      Answers anchors (reader ⟨inner, remaining⟩) ((Place.mk inner remaining).price anchors)
        answer) :
    Answers anchors (optional reader ⟨node, remaining⟩) ((Place.mk node remaining).price anchors)
      (if null then some none else some <$> answer) := by
  have present := answers_present target remaining
  rw [told] at present
  rw [price_meant target direct]
  cases null with
  | false => exact present.bind_some ((reads rfl).map some)
  | true => exact present.bind_some ((Answers.pure none).mono (Nat.zero_le _))

theorem ReadsAs.optional {reader : Place → Reader α} {decode : Content → Option α}
    {each : Place → Bool} {place : Place}
    (reads : ∀ inner : Place, each inner → ReadsAs anchors reader decode inner)
    (clear : place.optionalIsClear anchors each) :
    ReadsAs anchors (optional reader) (optional decode) place := by
  intro content said
  cases bears_of_content? said with
  | @scalar node remaining anchor tag style text _ target told =>
      rw [optionalIsClear, target] at clear
      rw [content?_meant target rfl] at said
      by_cases null : Scalar.isClearNull tag style text
      · rcases content?_of_isClearNull null with ⟨nothing, tells⟩
        cases told.symm.trans nothing
        exact answers_optional (decode .null) target rfl tells fun known => nomatch known
      · have here : tag ≠ some Scalar.nullTag ∧
            each ⟨.scalar anchor tag style text, remaining⟩ := by
          simpa [null] using clear
        rcases content?_of_not_isClearNull null here.1 with ⟨something, tells⟩
        rw [optional_eq fun nothing => something (by rw [told, nothing])]
        exact answers_optional _ target rfl tells fun _ => reads _ here.2 _ said
  | sequence target own told =>
      rw [optionalIsClear, target] at clear
      rw [content?_meant target rfl] at said
      rw [optional_eq Content.noConfusion]
      exact answers_optional _ target rfl rfl fun _ => reads _ clear _ said
  | mapping target own told =>
      rw [optionalIsClear, target] at clear
      rw [content?_meant target rfl] at said
      rw [optional_eq Content.noConfusion]
      exact answers_optional _ target rfl rfl fun _ => reads _ clear _ said

/-! ## Lists -/

def listIsClear (anchors : List (Nat × Node Nat)) (each : Place → Bool) (place : Place) : Bool :=
  match meant? anchors place.node, place.remaining with
  | some (.sequence _ _ items), remaining + 1 => items.all fun item => each ⟨item, remaining⟩
  | some inner, remaining => !(Place.mk inner remaining).isBlank
  | none, _ => true

theorem items_of_flat {content : Content} (flat : content.depth = 0) :
    Source.items (m := Option) content = none := by
  cases content with
  | sequence items => exact absurd flat (Nat.succ_ne_zero _)
  | _ => rfl

theorem ReadsAs.list {reader : Place → Reader α} {decode : Content → Option α}
    {each : Place → Bool} {place : Place}
    (reads : ∀ item : Place, each item → ReadsAs anchors reader decode item)
    (clear : place.listIsClear anchors each) :
    ReadsAs anchors (readItems reader) (readItems decode) place := by
  intro content said
  cases bears_of_content? said with
  | @scalar node remaining anchor tag style text _ target told =>
      have found : Answers anchors (Place.items ⟨node, remaining⟩) node.references none := by
        have written : ¬(Place.mk (.scalar anchor tag style text) remaining).isBlank := by
          rw [listIsClear, target] at clear
          simpa using clear
        rw [Place.items, ← Nat.add_zero node.references]
        apply Answers.after_follow target
        rw [if_neg written]
        exact .failure
      rw [readItems, readItems, items_of_flat (Scalar.content?_flat told)]
      exact found.bind_none.mono (references_le_price _ _)
  | @sequence node remaining anchor tag items contents target own told =>
      have found : Answers anchors (Place.items ⟨node, remaining + 1⟩) node.references
          (some (items.map (Place.mk · remaining))) := by
        rw [Place.items, ← Nat.add_zero node.references]
        exact .after_follow target (.pure _)
      have given : (items.map (Place.mk · remaining)).mapM (content? anchors) = some contents := by
        rw [List.mapM_map]
        exact told
      have run : Answers anchors ((items.map (Place.mk · remaining)).mapM reader)
          ((items.map (Place.mk · remaining)).map (price anchors)).sum (contents.mapM decode) := by
        apply Answers.mapM_given given
        intro item member
        rw [listIsClear, target] at clear
        rcases List.mem_map.mp member with ⟨node, held, rfl⟩
        exact reads _ (List.all_eq_true.mp clear node held)
      rw [List.map_map] at run
      rw [price_of_sequence target]
      exact found.bind_some run
  | @mapping node remaining anchor tag entries contents target own told =>
      have found : Answers anchors (Place.items ⟨node, remaining + 1⟩) node.references none := by
        rw [Place.items, ← Nat.add_zero node.references]
        exact .after_follow target .failure
      exact found.bind_none.mono (references_le_price _ _)

end Place

end CrdCompiler.Yaml
