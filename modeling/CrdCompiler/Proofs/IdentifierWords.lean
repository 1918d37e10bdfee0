import CrdCompiler.Naming
import CrdCompiler.Proofs.CaseTables
import Mathlib.Data.List.SplitBy
import Mathlib.Logic.Relation

/-! # Words of identifiers

A text is words with separators around them in one way only. An identifier is made of the words, so
that the separators matter no more than to tell where words end, and it is a single word that is
capitalized already.
-/

namespace CrdCompiler.Naming

/-- The text is the words in order, with any number of separators around each and at least one
between two of them. No word is empty and no separator is in a word. -/
inductive Spaced : List Char → List (List Char) → Prop where
  | gap {gap : List Char} (separators : ∀ character ∈ gap, isIdentifierSeparator character) :
      Spaced gap []
  | word {gap word rest : List Char} {words : List (List Char)}
      (separators : ∀ character ∈ gap, isIdentifierSeparator character) (inhabited : word ≠ [])
      (whole : ∀ character ∈ word, ¬isIdentifierSeparator character)
      (ends : ∀ character ∈ rest.head?, isIdentifierSeparator character)
      (further : Spaced rest words) : Spaced (gap ++ (word ++ rest)) (word :: words)

/-- One step that changes nothing of a text but its separators. -/
inductive Respaced : List Char → List Char → Prop where
  | replaced {before after : List Char} {old new : Char} (separates : isIdentifierSeparator old)
      (others : isIdentifierSeparator new) :
      Respaced (before ++ old :: after) (before ++ new :: after)
  | repeated {before after : List Char} {mark : Char} (separates : isIdentifierSeparator mark) :
      Respaced (before ++ mark :: after) (before ++ mark :: mark :: after)
  | leading {text : List Char} {mark : Char} (separates : isIdentifierSeparator mark) :
      Respaced text (mark :: text)
  | trailing {text : List Char} {mark : Char} (separates : isIdentifierSeparator mark) :
      Respaced text (text ++ [mark])

/-! ## The words of a text -/

theorem splitBy_run {run rest : List Char} {separates : Bool} (inhabited : run ≠ [])
    (alike : ∀ character ∈ run, isIdentifierSeparator character = separates)
    (ends : ∀ character ∈ rest.head?, isIdentifierSeparator character = !separates) :
    ((run ++ rest).splitBy fun left right =>
        isIdentifierSeparator left == isIdentifierSeparator right) =
      run :: rest.splitBy fun left right =>
        isIdentifierSeparator left == isIdentifierSeparator right := by
  rw [List.splitBy_append, List.splitBy_of_isChain inhabited]
  · rfl
  · apply List.Pairwise.isChain
    apply List.pairwise_of_forall_mem_list
    intro left leftMember right rightMember
    simp [alike left leftMember, alike right rightMember]
  · intro last isLast first isFirst
    simp [alike last (List.mem_of_mem_getLast? isLast), ends first isFirst]

theorem words_nil : words [] = [] := rfl

theorem words_gap_append {gap rest : List Char}
    (separators : ∀ character ∈ gap, isIdentifierSeparator character)
    (begins : ∀ character ∈ rest.head?, ¬isIdentifierSeparator character) :
    words (gap ++ rest) = words rest := by
  by_cases empty : gap = []
  · rw [empty, List.nil_append]
  · have alike : ∀ character ∈ gap, isIdentifierSeparator character = true := separators
    have ends : ∀ character ∈ rest.head?, isIdentifierSeparator character = !true := by
      simpa using begins
    have skipped : ¬gap.any (!isIdentifierSeparator ·) := by simpa using separators
    rw [words, splitBy_run empty alike ends, List.filter_cons, if_neg skipped, words]

theorem words_append {word rest : List Char} (inhabited : word ≠ [])
    (whole : ∀ character ∈ word, ¬isIdentifierSeparator character)
    (ends : ∀ character ∈ rest.head?, isIdentifierSeparator character) :
    words (word ++ rest) = word :: words rest := by
  have alike : ∀ character ∈ word, isIdentifierSeparator character = false := by
    simpa using whole
  have kept : word.any (!isIdentifierSeparator ·) := by
    rcases List.exists_mem_of_ne_nil word inhabited with ⟨character, member⟩
    exact List.any_eq_true.mpr ⟨character, member, by simpa using whole character member⟩
  rw [words, splitBy_run inhabited alike (by simpa using ends), List.filter_cons, if_pos kept, words]

namespace Spaced

theorem eq_words {text : List Char} {parts : List (List Char)} (spaced : Spaced text parts) :
    parts = words text := by
  induction spaced with
  | @gap gap separators =>
      have skipped : words (gap ++ []) = words [] := words_gap_append separators (by simp)
      rw [List.append_nil, words_nil] at skipped
      exact skipped.symm
  | @word gap word rest parts separators inhabited whole ends further induction =>
      have begins : ∀ character ∈ (word ++ rest).head?, ¬isIdentifierSeparator character := by
        intro character isFirst
        rw [List.head?_append_of_ne_nil _ inhabited] at isFirst
        exact whole character (List.mem_of_mem_head? isFirst)
      rw [words_gap_append separators begins, words_append inhabited whole ends, induction]

theorem gap_append {gap text : List Char} {parts : List (List Char)}
    (separators : ∀ character ∈ gap, isIdentifierSeparator character) (spaced : Spaced text parts) :
    Spaced (gap ++ text) parts := by
  cases spaced with
  | gap others => exact .gap (List.forall_mem_append.mpr ⟨separators, others⟩)
  | word others inhabited whole ends further =>
      rw [← List.append_assoc]
      exact .word (List.forall_mem_append.mpr ⟨separators, others⟩) inhabited whole ends further

theorem separator_cons {text : List Char} {parts : List (List Char)} {mark : Char}
    (separates : isIdentifierSeparator mark) (spaced : Spaced text parts) :
    Spaced (mark :: text) parts :=
  gap_append (List.forall_mem_singleton.mpr separates) spaced

theorem cons {text : List Char} {parts : List (List Char)} {character : Char}
    (belongs : ¬isIdentifierSeparator character) (spaced : Spaced text parts) :
    ∃ others, Spaced (character :: text) others := by
  have single : ∀ other ∈ [character], ¬isIdentifierSeparator other := by simpa using belongs
  cases spaced with
  | gap separators =>
      have ends : ∀ other ∈ text.head?, isIdentifierSeparator other :=
        fun other isFirst => separators other (List.mem_of_mem_head? isFirst)
      exact ⟨_, .word (List.forall_mem_nil _) (List.cons_ne_nil character []) single ends
        (.gap separators)⟩
  | @word gap word rest parts separators inhabited whole ends further =>
      -- Without a gap the character lengthens the first word, else it is parted from it.
      cases gap with
      | nil =>
          have whole : ∀ other ∈ character :: word, ¬isIdentifierSeparator other :=
            List.forall_mem_cons.mpr ⟨belongs, whole⟩
          exact ⟨_, .word (List.forall_mem_nil _) (List.cons_ne_nil character word) whole ends
            further⟩
      | cons first gap =>
          have stops : ∀ other ∈ (first :: gap ++ (word ++ rest)).head?,
              isIdentifierSeparator other := by
            simpa using separators first List.mem_cons_self
          exact ⟨_, .word (List.forall_mem_nil _) (List.cons_ne_nil character []) single stops
            (.word separators inhabited whole ends further)⟩

theorem total (text : List Char) : ∃ parts, Spaced text parts := by
  induction text with
  | nil => exact ⟨[], .gap (List.forall_mem_nil _)⟩
  | cons character text induction =>
      rcases induction with ⟨parts, spaced⟩
      by_cases separates : isIdentifierSeparator character
      · exact ⟨parts, spaced.separator_cons separates⟩
      · exact spaced.cons separates

theorem iff_eq {text : List Char} {parts : List (List Char)} :
    Spaced text parts ↔ parts = words text := by
  constructor
  · exact eq_words
  · rintro rfl
    rcases total text with ⟨parts, spaced⟩
    rwa [← spaced.eq_words]

theorem append {left right : List Char} {leftWords rightWords : List (List Char)} {mark : Char}
    (separates : isIdentifierSeparator mark) (spaced : Spaced left leftWords)
    (others : Spaced right rightWords) :
    Spaced (left ++ mark :: right) (leftWords ++ rightWords) := by
  have behind : Spaced (mark :: right) rightWords := others.separator_cons separates
  -- Along the words on the left, with the separator and all behind it as the last gap.
  induction spaced with
  | gap separators => exact behind.gap_append separators
  | @word gap word rest parts separators inhabited whole ends further induction =>
      rw [List.append_assoc, List.append_assoc]
      refine .word separators inhabited whole ?_ induction
      cases rest with
      | nil => simpa using separates
      | cons first tail => exact ends

end Spaced

theorem words_append_cons {left right : List Char} {mark : Char}
    (separates : isIdentifierSeparator mark) :
    words (left ++ mark :: right) = words left ++ words right :=
  (Spaced.append separates (Spaced.iff_eq.mpr rfl) (Spaced.iff_eq.mpr rfl)).eq_words.symm

theorem Respaced.words_eq {text other : List Char} (respaced : Respaced text other) :
    words other = words text := by
  have leading {text : List Char} {mark : Char} (separates : isIdentifierSeparator mark) :
      words (mark :: text) = words text := @words_append_cons [] text mark separates
  cases respaced with
  | replaced separates others => rw [words_append_cons separates, words_append_cons others]
  | repeated separates =>
      rw [words_append_cons separates, words_append_cons separates, leading separates]
  | leading separates => exact leading separates
  | trailing separates => rw [words_append_cons separates, words_nil, List.append_nil]

theorem words_eq_of_respaced {text other : List Char}
    (respaced : Relation.EqvGen Respaced text other) : words other = words text := by
  induction respaced with
  | rel text other step => exact step.words_eq
  | refl text => rfl
  | symm text other _ induction => exact induction.symm
  | trans text between other _ _ first second => exact second.trans first

theorem Spaced.of_mem {text word : List Char} {parts : List (List Char)}
    (spaced : Spaced text parts) (member : word ∈ parts) :
    word ≠ [] ∧ ∀ character ∈ word, ¬isIdentifierSeparator character := by
  induction spaced with
  | gap separators => cases member
  | word separators inhabited whole ends further induction =>
      rcases List.mem_cons.mp member with rfl | member
      · exact ⟨inhabited, whole⟩
      · exact induction member

/-! ## Capitalized words -/

/-- The codes of all separators. -/
def separatorCodes : List Nat :=
  ['-', '.', '/', ':', '_'].map Char.toNat ++
    Text.whiteSpace.flatMap fun span => List.range' span.1 (span.2 + 1 - span.1)

theorem isIdentifierSeparator_iff {character : Char} :
    isIdentifierSeparator character ↔
      character ∈ ['-', '.', '/', ':', '_'] ∨ Text.isBlank character := by
  simp only [isIdentifierSeparator, isSeparator, Bool.or_eq_true, decide_eq_true_eq,
    List.mem_cons, List.not_mem_nil, or_false]
  tauto

theorem toNat_mem_separatorCodes {character : Char} (separates : isIdentifierSeparator character) :
    character.toNat ∈ separatorCodes := by
  rcases isIdentifierSeparator_iff.mp separates with listed | blank
  · exact List.mem_append_left _ (List.mem_map_of_mem listed)
  · rcases List.any_eq_true.mp blank with ⟨⟨first, last⟩, listed, inside⟩
    have bounds : first ≤ character.toNat ∧ character.toNat ≤ last := by simpa using inside
    have here : character.toNat ∈ List.range' first (last + 1 - first) :=
      List.mem_range'_1.mpr ⟨bounds.1, by omega⟩
    exact List.mem_append_right _ (List.mem_flatMap.mpr ⟨(first, last), listed, here⟩)

theorem eq_of_mem_upperCharacter {character other : Char} (separates : isIdentifierSeparator other)
    (member : other ∈ Text.upperCharacter character) : other = character := by
  have unreached : ∀ code ∈ separatorCodes,
      code ∉ 0 :: Text.images Text.upperExpansions Text.upperRanges :=
    Text.notMem_of_bitsOf (by decide +kernel)
  exact Text.eq_of_mem_mapped member (unreached _ (toNat_mem_separatorCodes separates))

theorem not_isIdentifierSeparator_of_mem_capitalize {word : List Char}
    (whole : ∀ character ∈ word, ¬isIdentifierSeparator character) :
    ∀ character ∈ capitalize word, ¬isIdentifierSeparator character := by
  intro character member separates
  cases word with
  | nil => cases member
  | cons first rest =>
      rcases List.forall_mem_cons.mp whole with ⟨head, tail⟩
      rcases List.mem_append.mp member with upper | behind
      · exact head (eq_of_mem_upperCharacter separates upper ▸ separates)
      · exact tail character behind separates

theorem capitalize_ne_nil {word : List Char} (inhabited : word ≠ []) : capitalize word ≠ [] := by
  cases word with
  | nil => exact absurd rfl inhabited
  | cons first rest =>
      exact List.append_ne_nil_of_left_ne_nil (Text.upperCharacter_ne_nil first) rest

/-- A capitalized word stays as it is, also with other text behind it. -/
theorem capitalize_append {word rest : List Char} (inhabited : word ≠ []) :
    capitalize (capitalize word ++ rest) = capitalize word ++ rest := by
  cases word with
  | nil => exact absurd rfl inhabited
  | cons first behind =>
      rcases List.exists_cons_of_ne_nil (Text.upperCharacter_ne_nil first) with ⟨large, others, form⟩
      -- Of the forms of the first character only the first is capitalized again.
      have inside : large ∈ Text.upperCharacter first := form ▸ List.mem_cons_self
      rw [capitalize, form, List.cons_append, List.cons_append, capitalize,
        Text.upperCharacter_of_mem inside, List.singleton_append]

theorem capitalize_eq : capitalize = fun word =>
    word.head?.toList.flatMap Text.upperCharacter ++ word.tail := by
  funext word
  cases word with
  | nil => rfl
  | cons first rest => simp [capitalize]

theorem toList_identifier (name : String) :
    (identifier name).toList = (words name.toList).flatMap capitalize :=
  String.toList_ofList

theorem not_isIdentifierSeparator_of_mem_identifier {name : String} {character : Char}
    (member : character ∈ (identifier name).toList) : ¬isIdentifierSeparator character := by
  rw [toList_identifier] at member
  rcases List.mem_flatMap.mp member with ⟨word, listed, inside⟩
  have whole := ((Spaced.iff_eq.mpr rfl).of_mem listed).2
  exact not_isIdentifierSeparator_of_mem_capitalize whole character inside

theorem identifier_identifier (name : String) : identifier (identifier name) = identifier name := by
  rw [← String.toList_inj, toList_identifier]
  cases split : words name.toList with
  | nil => rw [toList_identifier, split, List.flatMap_nil, words_nil, List.flatMap_nil]
  | cons word others =>
      have inhabited : word ≠ [] :=
        ((Spaced.iff_eq.mpr split.symm).of_mem List.mem_cons_self).1
      have joined : (identifier name).toList = capitalize word ++ others.flatMap capitalize := by
        rw [toList_identifier, split, List.flatMap_cons]
      have nonempty : (identifier name).toList ≠ [] :=
        joined ▸ List.append_ne_nil_of_left_ne_nil (capitalize_ne_nil inhabited) _
      have single : words ((identifier name).toList ++ []) = (identifier name).toList :: words [] :=
        words_append nonempty (fun _ => not_isIdentifierSeparator_of_mem_identifier) (by simp)
      rw [List.append_nil, words_nil] at single
      rw [single, List.flatMap_singleton, joined, capitalize_append inhabited]

/-- An identifier consists of the words of its name, capitalized and joined; the words are told in
one way, whatever separators are around them. No separator is in it, and it is its own identifier. -/
theorem identifier_of_words (name : String) :
    identifier (identifier name) = identifier name ∧
    (∀ character ∈ (identifier name).toList,
      character ∉ ['-', '.', '/', ':', '_'] ∧ ¬Text.isBlank character) ∧
    (∃! words, Spaced name.toList words) ∧
    (∀ words, Spaced name.toList words →
      (identifier name).toList = words.flatMap fun word =>
        word.head?.toList.flatMap Text.upperCharacter ++ word.tail) ∧
    ∀ other : String, Relation.EqvGen Respaced name.toList other.toList →
      identifier other = identifier name := by
  refine ⟨identifier_identifier name, ?_, ?_, ?_, ?_⟩
  · intro character member
    have belongs := not_isIdentifierSeparator_of_mem_identifier member
    exact not_or.mp (mt isIdentifierSeparator_iff.mpr belongs)
  · exact ⟨words name.toList, Spaced.iff_eq.mpr rfl, fun _ spaced => spaced.eq_words⟩
  · intro parts spaced
    rw [toList_identifier, ← spaced.eq_words, capitalize_eq]
  · intro other respaced
    rw [← String.toList_inj, toList_identifier, toList_identifier, words_eq_of_respaced respaced]

/-- A ligature and a letter with an apostrophe have several characters as their upper-case forms. -/
theorem identifier_of_ligatures :
    Relation.EqvGen Respaced "ŉode/ﬁx".toList "\u00a0ŉode__ﬁx".toList ∧
      identifier "\u00a0ŉode__ﬁx" = identifier "ŉode/ﬁx" ∧
      Spaced "ŉode/ﬁx".toList ["ŉode".toList, "ﬁx".toList] ∧
      identifier "ŉode/ﬁx" = "ʼNodeFIx" ∧ identifier "ʼNodeFIx" = "ʼNodeFIx" := by
  rcases identifier_of_words "ŉode/ﬁx" with ⟨again, _, _, ofWords, respacing⟩
  have underscored : Respaced "ŉode/ﬁx".toList "ŉode_ﬁx".toList :=
    @Respaced.replaced "ŉode".toList "ﬁx".toList '/' '_' rfl rfl
  have doubled : Respaced "ŉode_ﬁx".toList "ŉode__ﬁx".toList :=
    @Respaced.repeated "ŉode".toList "ﬁx".toList '_' rfl
  have indented : Respaced "ŉode__ﬁx".toList "\u00a0ŉode__ﬁx".toList := .leading rfl
  have respaced := (Relation.EqvGen.rel _ _ underscored).trans _ _ _
    ((Relation.EqvGen.rel _ _ doubled).trans _ _ _ (.rel _ _ indented))
  have spaced : Spaced "ŉode/ﬁx".toList ["ŉode".toList, "ﬁx".toList] := by
    rw [Spaced.iff_eq]
    decide +kernel
  have joined : identifier "ŉode/ﬁx" = "ʼNodeFIx" := by
    rw [← String.toList_inj, ofWords _ spaced]
    decide +kernel
  refine ⟨respaced, respacing _ respaced, spaced, joined, ?_⟩
  rw [← joined, again]

end CrdCompiler.Naming
