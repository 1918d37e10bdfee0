import CrdCompiler.Proofs.Answers
import CrdCompiler.Proofs.ScalarContent

/-! # Content of nodes

What a node says as untyped content, with its references followed, and how many references that
takes, both without running the reader.
-/

namespace CrdCompiler.Yaml

variable {anchors : List (Nat × Node Nat)} {remaining : Nat} {node inner : Node Nat}

/-! ## References -/

def meant? (anchors : List (Nat × Node Nat)) : Node Nat → Option (Node Nat)
  | .reference target => anchors.lookup target
  | node => some node

def Node.references : Node Nat → Nat
  | .reference _ => 1
  | _ => 0

theorem meant?_of_direct (direct : node.references = 0) : meant? anchors node = some node := by
  cases node with
  | reference target => exact absurd direct Nat.one_ne_zero
  | _ => rfl

theorem run_follow_reference (target remaining left : Nat) :
    ((Place.mk (.reference target) remaining).follow.run (left + 1)).run anchors =
      (anchors.lookup target).map fun node => (Place.mk node remaining, left) := by
  have given : ((read : Reader (List (Nat × Node Nat))).run left).run anchors =
      some (anchors, left) := rfl
  simp only [Place.follow, StateT.run_bind, StateT.run_get, StateT.run_set, ReaderT.run_bind,
    pure_bind, given, Option.bind_eq_bind, Option.bind_some]
  cases anchors.lookup target <;> rfl

theorem takes_follow (anchors : List (Nat × Node Nat)) (remaining : Nat) (node : Node Nat) :
    Takes anchors (Place.mk node remaining).follow node.references
      ((meant? anchors node).map (Place.mk · remaining)) := by
  cases node with
  | reference target =>
      intro budget
      cases budget with
      | zero => rfl
      | succ budget =>
          rw [run_follow_reference, Node.references, if_pos (Nat.le_add_left 1 budget),
            Option.map_map]
          rfl
  | scalar anchor tag style text => exact .pure _
  | sequence anchor tag items => exact .pure _
  | mapping anchor tag entries => exact .pure _

section

variable {α : Type} {next : Place → Reader α} {more : Nat} {answer : Option α}

theorem Takes.after_follow
    (meant : ∀ inner, meant? anchors node = some inner →
      Takes anchors (next ⟨inner, remaining⟩) more answer)
    (lost : meant? anchors node = none → answer = none) :
    Takes anchors ((Place.mk node remaining).follow >>= next) (node.references + more) answer := by
  have same : answer = (meant? anchors node).map (Place.mk · remaining) >>= fun _ => answer := by
    cases target : meant? anchors node with
    | none => exact lost target
    | some inner => rfl
  rw [same]
  apply (takes_follow anchors remaining node).bind
  intro place found
  rcases Option.map_eq_some_iff.mp found with ⟨inner, target, rfl⟩
  exact meant inner target

theorem Answers.after_follow (target : meant? anchors node = some inner)
    (meant : Answers anchors (next ⟨inner, remaining⟩) more answer) :
    Answers anchors ((Place.mk node remaining).follow >>= next) (node.references + more)
      answer := by
  have followed := (takes_follow anchors remaining node).answers
  rw [target] at followed
  exact followed.bind_some meant

end

/-! ## Content -/

def entryContent? (below : Node Nat → Option Content) (entry : Node Nat × Node Nat) :
    Option (ContentKey × Content) := do
  return ((← below entry.1).toKey, ← below entry.2)

theorem entryContent?_eq_some {below : Node Nat → Option Content} {entry : Node Nat × Node Nat}
    {said : ContentKey × Content} (told : entryContent? below entry = some said) :
    ∃ key content, below entry.1 = some key ∧ below entry.2 = some content ∧
      said = (key.toKey, content) := by
  rcases Option.bind_eq_some_iff.mp told with ⟨key, keyTold, told⟩
  rcases Option.bind_eq_some_iff.mp told with ⟨content, valueTold, same⟩
  exact ⟨key, content, keyTold, valueTold, (Option.some.inj same).symm⟩

namespace Node

/-- What the node says as content. -/
def contentOf? (anchors : List (Nat × Node Nat)) : Nat → Node Nat → Option Content
  | remaining, node =>
    match meant? anchors node with
    | some (.scalar _ tag style text) => Scalar.content? tag style text
    | some (.sequence _ tag items) =>
      if Scalar.isLocal tag then none
      else match remaining with
        | 0 => none
        | remaining + 1 => Content.sequence <$> items.mapM (contentOf? anchors remaining)
    | some (.mapping _ tag entries) =>
      if Scalar.isLocal tag then none
      else match remaining with
        | 0 => none
        | remaining + 1 =>
          Content.mapping <$> entries.mapM (entryContent? (contentOf? anchors remaining))
    | _ => none

/-- How many references are followed in all of the node. -/
def price (anchors : List (Nat × Node Nat)) : Nat → Node Nat → Nat
  | remaining, node =>
    node.references +
      match meant? anchors node with
      | some (.sequence _ _ items) =>
        match remaining with
        | 0 => 0
        | remaining + 1 => (items.map (price anchors remaining)).sum
      | some (.mapping _ _ entries) =>
        match remaining with
        | 0 => 0
        | remaining + 1 => (entries.map fun entry =>
            price anchors remaining entry.1 + price anchors remaining entry.2).sum
      | _ => 0

end Node

open Node

theorem takes_entries {below : Node Nat → Reader Content} {prices : Node Nat → Nat}
    {contents : Node Nat → Option Content}
    (takes : ∀ node, Takes anchors (below node) (prices node) (contents node))
    (entries : List (Node Nat × Node Nat)) :
    Takes anchors
      (entries.mapM fun (key, value) => do return ((← below key).toKey, ← below value))
      (entries.map fun entry => prices entry.1 + prices entry.2).sum
      (entries.mapM (entryContent? contents)) := by
  apply Takes.mapM
  intro entry _
  apply (takes entry.1).bind
  intro key _
  exact (takes entry.2).bind fun value _ => .pure (key.toKey, value)

theorem takes_untyped (anchors : List (Nat × Node Nat)) (remaining : Nat) (node : Node Nat) :
    Takes anchors (Place.untyped remaining node) (node.price anchors remaining)
      (node.contentOf? anchors remaining) := by
  induction remaining generalizing node with
  | zero =>
      rw [Place.untyped, price, contentOf?]
      apply Takes.after_follow
      · intro inner target
        rw [target]
        cases inner with
        | reference target => exact .failure
        | scalar anchor tag style text => exact .lift _
        | sequence anchor tag items =>
            cases ownTag : Scalar.isLocal tag <;> simp only [ownTag] <;> exact .failure
        | mapping anchor tag entries =>
            cases ownTag : Scalar.isLocal tag <;> simp only [ownTag] <;> exact .failure
      · intro target
        rw [target]
  | succ remaining induction =>
      rw [Place.untyped, price, contentOf?]
      apply Takes.after_follow
      · intro inner target
        rw [target]
        cases inner with
        | reference target => exact .failure
        | scalar anchor tag style text => exact .lift _
        | sequence anchor tag items =>
            dsimp only
            cases ownTag : Scalar.isLocal tag with
            | true => exact .failure
            | false =>
                rw [if_neg Bool.false_ne_true, if_neg Bool.false_ne_true]
                exact (Takes.mapM fun item _ => induction item).map _
        | mapping anchor tag entries =>
            dsimp only
            cases ownTag : Scalar.isLocal tag with
            | true => exact .failure
            | false =>
                rw [if_neg Bool.false_ne_true, if_neg Bool.false_ne_true]
                exact (takes_entries induction entries).map _
      · intro target
        rw [target]

namespace Place

/-! ## Places -/

def content? (anchors : List (Nat × Node Nat)) (place : Place) : Option Content :=
  place.node.contentOf? anchors place.remaining

def price (anchors : List (Nat × Node Nat)) (place : Place) : Nat :=
  place.node.price anchors place.remaining

inductive Bears (anchors : List (Nat × Node Nat)) : Place → Content → Prop where
  | scalar {node : Node Nat} {remaining : Nat} {anchor tag : Option String} {style : ScalarStyle}
      {text : String} {content : Content}
      (target : meant? anchors node = some (.scalar anchor tag style text))
      (told : Scalar.content? tag style text = some content) :
      Bears anchors ⟨node, remaining⟩ content
  | sequence {node : Node Nat} {remaining : Nat} {anchor tag : Option String}
      {items : List (Node Nat)} {contents : List Content}
      (target : meant? anchors node = some (.sequence anchor tag items))
      (own : Scalar.isLocal tag = false)
      (told : items.mapM (Node.contentOf? anchors remaining) = some contents) :
      Bears anchors ⟨node, remaining + 1⟩ (.sequence contents)
  | mapping {node : Node Nat} {remaining : Nat} {anchor tag : Option String}
      {entries : List (Node Nat × Node Nat)} {contents : List (ContentKey × Content)}
      (target : meant? anchors node = some (.mapping anchor tag entries))
      (own : Scalar.isLocal tag = false)
      (told : entries.mapM (entryContent? (Node.contentOf? anchors remaining)) = some contents) :
      Bears anchors ⟨node, remaining + 1⟩ (.mapping contents)

theorem bears_of_content? {place : Place} {content : Content}
    (said : place.content? anchors = some content) : Bears anchors place content := by
  rcases place with ⟨node, remaining⟩
  rw [content?, Node.contentOf?.eq_def] at said
  dsimp only at said
  split at said
  · rename_i target
    exact .scalar target said
  · rename_i target
    rcases Option.ite_none_left_eq_some.mp said with ⟨own, said⟩
    cases remaining with
    | zero => cases said
    | succ remaining =>
        rcases Option.map_eq_some_iff.mp said with ⟨contents, told, rfl⟩
        exact .sequence target (Bool.eq_false_iff.mpr own) told
  · rename_i target
    rcases Option.ite_none_left_eq_some.mp said with ⟨own, said⟩
    cases remaining with
    | zero => cases said
    | succ remaining =>
        rcases Option.map_eq_some_iff.mp said with ⟨contents, told, rfl⟩
        exact .mapping target (Bool.eq_false_iff.mpr own) told
  · cases said

theorem references_le_price (node : Node Nat) (remaining : Nat) :
    node.references ≤ (Place.mk node remaining).price anchors := by
  rw [price, Node.price.eq_def]
  exact Nat.le_add_right _ _

theorem price_of_sequence {anchor tag : Option String} {items : List (Node Nat)}
    (target : meant? anchors node = some (.sequence anchor tag items)) (remaining : Nat) :
    (Place.mk node (remaining + 1)).price anchors =
      node.references + (items.map fun item => (Place.mk item remaining).price anchors).sum := by
  rw [price, Node.price, target]
  rfl

theorem price_of_mapping {anchor tag : Option String}
    {entries : List (Node Nat × Node Nat)}
    (target : meant? anchors node = some (.mapping anchor tag entries)) (remaining : Nat) :
    (Place.mk node (remaining + 1)).price anchors = node.references +
      (entries.map fun entry => (Place.mk entry.1 remaining).price anchors +
        (Place.mk entry.2 remaining).price anchors).sum := by
  rw [price, Node.price, target]
  rfl

theorem content?_meant (target : meant? anchors node = some inner)
    (direct : inner.references = 0) (remaining : Nat) :
    (Place.mk node remaining).content? anchors = (Place.mk inner remaining).content? anchors := by
  rw [content?, content?, Node.contentOf?.eq_def, Node.contentOf?.eq_def]
  dsimp only
  rw [target, meant?_of_direct direct]

theorem price_meant (target : meant? anchors node = some inner)
    (direct : inner.references = 0) (remaining : Nat) :
    (Place.mk node remaining).price anchors =
      node.references + (Place.mk inner remaining).price anchors := by
  rw [price, price, Node.price.eq_def, Node.price.eq_def]
  dsimp only
  rw [target, meant?_of_direct direct, direct, Nat.zero_add]

end Place

end CrdCompiler.Yaml
