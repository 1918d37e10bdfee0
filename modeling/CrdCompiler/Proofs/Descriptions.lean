import CrdCompiler.Description
import CrdCompiler.Proofs.Assembling
import CrdCompiler.Proofs.FieldTree
import Mathlib.Data.List.DropRight

/-! # Descriptions

A cleaned description shows what was taken from the raw text, character by character. The mark is
told from what is left of the raw text, and behind it a description is all but the blanks at both
ends.
-/

namespace CrdCompiler

namespace Text

/-- The core is the text without the blanks around it: none is left at its ends. -/
structure IsCore (text core : List Char) : Prop where
  inside : ∃ before after, (∀ character ∈ before, isBlank character) ∧
    (∀ character ∈ after, isBlank character) ∧ text = before ++ core ++ after
  begins : ∀ character ∈ core.head?, ¬isBlank character
  ends : ∀ character ∈ core.getLast?, ¬isBlank character

theorem toList_trim (text : String) :
    (trim text).toList = (text.toList.dropWhile isBlank).rdropWhile isBlank :=
  String.toList_ofList

theorem head?_dropWhile (text : List Char) :
    ∀ character ∈ (text.dropWhile isBlank).head?, ¬isBlank character := by
  intro character isFirst
  have first := List.head?_dropWhile_not isBlank text
  rw [isFirst] at first
  simpa using first

theorem isCore_trim (text : String) : IsCore text.toList (trim text).toList where
  inside := by
    refine ⟨text.toList.takeWhile isBlank, (text.toList.dropWhile isBlank).rtakeWhile isBlank,
      fun _ => List.mem_takeWhile_imp, fun _ => List.mem_rtakeWhile_imp, ?_⟩
    rw [toList_trim, List.append_assoc, List.rdropWhile_append_rtakeWhile,
      List.takeWhile_append_dropWhile]
  begins := by
    intro character isFirst
    rw [toList_trim] at isFirst
    rcases List.head?_eq_some_iff.mp isFirst with ⟨tail, begins⟩
    rcases List.rdropWhile_prefix isBlank (text.toList.dropWhile isBlank) with ⟨after, same⟩
    apply head?_dropWhile text.toList
    rw [← same, begins]
    rfl
  ends := by
    intro character isLast
    rw [toList_trim, List.rdropWhile, List.getLast?_reverse] at isLast
    exact head?_dropWhile _ character isLast

theorem dropWhile_append {before rest : List Char}
    (blank : ∀ character ∈ before, isBlank character)
    (begins : ∀ character ∈ rest.head?, ¬isBlank character) :
    (before ++ rest).dropWhile isBlank = rest := by
  rw [List.dropWhile_append_of_pos blank]
  cases rest with
  | nil => rfl
  | cons first rest => exact List.dropWhile_cons_of_neg (begins first rfl)

theorem IsCore.eq_trim {text : String} {core : List Char} (isCore : IsCore text.toList core) :
    core = (trim text).toList := by
  rcases isCore with ⟨⟨before, after, leading, trailing, same⟩, begins, ends⟩
  rw [toList_trim, same, List.append_assoc]
  cases core with
  | nil =>
      -- Then nothing tells one end from the other, but all of the text is blank.
      have blank : ∀ character ∈ before ++ after, isBlank character :=
        List.forall_mem_append.mpr ⟨leading, trailing⟩
      rw [List.nil_append, List.dropWhile_eq_nil_iff.mpr blank, List.rdropWhile_nil]
  | cons first rest =>
      have reversed : ∀ character ∈ (first :: rest).reverse.head?, ¬isBlank character := by
        rwa [List.head?_reverse]
      rw [dropWhile_append leading (by simpa using begins), List.rdropWhile, List.reverse_append,
        dropWhile_append (by simpa using trailing) reversed, List.reverse_reverse]

end Text

namespace Description

/-! ## Cleaned texts -/

def deletions : List Char := ['\n', '\r', '\\']

def quotes : List Char := ['`', '"']

/-- What becomes of each character of a raw text. -/
inductive Cleaned : List Char → List Char → Prop where
  | done : Cleaned [] []
  | deleted {character : Char} {rest text : List Char} (deleted : character ∈ deletions)
      (further : Cleaned rest text) : Cleaned (character :: rest) text
  | quote {character : Char} {rest text : List Char} (quote : character ∈ quotes)
      (further : Cleaned rest text) : Cleaned (character :: rest) ('\'' :: text)
  | kept {character : Char} {rest text : List Char} (plain : character ∉ deletions ++ quotes)
      (further : Cleaned rest text) : Cleaned (character :: rest) (character :: text)

def undeleted (raw : List Char) : List Char :=
  raw.filter (· ∉ deletions)

theorem undeleted_of_mem {character : Char} {rest : List Char} (deleted : character ∈ deletions) :
    undeleted (character :: rest) = undeleted rest :=
  List.filter_cons_of_neg (by simpa using deleted)

theorem undeleted_of_notMem {character : Char} {rest : List Char}
    (kept : character ∉ deletions) : undeleted (character :: rest) = character :: undeleted rest :=
  List.filter_cons_of_pos (by simpa using kept)

theorem notMem_deletions_of_quote {character : Char} (quote : character ∈ quotes) :
    character ∉ deletions := by
  rcases List.mem_pair.mp quote with rfl | rfl <;> decide

theorem toList_clean (raw : String) :
    (clean raw).toList =
      (undeleted raw.toList).map fun character =>
        if character ∈ quotes then '\'' else character := by
  rw [clean, String.toList_ofList, undeleted]
  congr 1
  · funext character
    simp [quotes]
  · congr 1
    funext character
    rw [Bool.eq_iff_iff]
    simp [deletions, and_assoc]

theorem Cleaned.eq_clean {raw : String} {text : List Char} (cleaned : Cleaned raw.toList text) :
    text = (clean raw).toList := by
  rw [toList_clean]
  generalize raw.toList = characters at cleaned
  induction cleaned with
  | done => rfl
  | deleted deleted further induction => rw [undeleted_of_mem deleted, induction]
  | quote quote further induction =>
      rw [undeleted_of_notMem (notMem_deletions_of_quote quote), List.map_cons, if_pos quote,
        induction]
  | kept plain further induction =>
      rcases not_or.mp (mt List.mem_append.mpr plain) with ⟨kept, unquoted⟩
      rw [undeleted_of_notMem kept, List.map_cons, if_neg unquoted, induction]

theorem Cleaned.total (raw : List Char) : ∃ text, Cleaned raw text := by
  induction raw with
  | nil => exact ⟨[], .done⟩
  | cons character rest induction =>
      rcases induction with ⟨text, cleaned⟩
      by_cases deleted : character ∈ deletions
      · exact ⟨text, .deleted deleted cleaned⟩
      · by_cases quote : character ∈ quotes
        · exact ⟨_, .quote quote cleaned⟩
        · exact ⟨_, .kept (mt List.mem_append.mp (not_or.mpr ⟨deleted, quote⟩)) cleaned⟩

theorem cleaned_iff {raw : String} {text : List Char} :
    Cleaned raw.toList text ↔ text = (clean raw).toList := by
  constructor
  · exact Cleaned.eq_clean
  · rintro rfl
    rcases Cleaned.total raw.toList with ⟨text, cleaned⟩
    rwa [← cleaned.eq_clean]

theorem Cleaned.plain {raw text : List Char} (cleaned : Cleaned raw text) :
    ∀ character ∈ text, character ∉ deletions ++ quotes := by
  induction cleaned with
  | done => exact List.forall_mem_nil _
  | deleted deleted further induction => exact induction
  | quote quote further induction => exact List.forall_mem_cons.mpr ⟨by decide, induction⟩
  | kept plain further induction => exact List.forall_mem_cons.mpr ⟨plain, induction⟩

theorem cleaned_of_plain {text : List Char}
    (plain : ∀ character ∈ text, character ∉ deletions ++ quotes) : Cleaned text text := by
  induction text with
  | nil => exact .done
  | cons character rest induction =>
      rcases List.forall_mem_cons.mp plain with ⟨head, tail⟩
      exact .kept head (induction tail)

theorem clean_clean (raw : String) : clean (clean raw) = clean raw := by
  have cleaned : Cleaned raw.toList (clean raw).toList := cleaned_iff.mpr rfl
  rw [← String.toList_inj]
  exact (cleaned_of_plain cleaned.plain).eq_clean.symm

/-- A text without quotes begins a cleaned text exactly if it begins what is left of the raw one. -/
theorem Cleaned.prefix_iff {raw text expected : List Char} (cleaned : Cleaned raw text)
    (unquoted : ∀ character ∈ expected, character ∉ '\'' :: quotes) :
    expected <+: text ↔ expected <+: undeleted raw := by
  -- A deleted character is in neither text, and at a quote neither text goes on as expected.
  induction cleaned generalizing expected with
  | done => rfl
  | deleted deleted further induction => rw [undeleted_of_mem deleted, induction unquoted]
  | quote quote further induction =>
      rw [undeleted_of_notMem (notMem_deletions_of_quote quote)]
      cases expected with
      | nil => simp
      | cons first others =>
          rcases List.forall_mem_cons.mp unquoted with ⟨head, _⟩
          rw [List.cons_prefix_cons, List.cons_prefix_cons]
          constructor
          · rintro ⟨rfl, _⟩
            exact absurd List.mem_cons_self head
          · rintro ⟨rfl, _⟩
            exact absurd (List.mem_cons_of_mem _ quote) head
  | kept plain further induction =>
      rw [undeleted_of_notMem (mt (List.mem_append_left quotes) plain)]
      cases expected with
      | nil => simp
      | cons first others =>
          rcases List.forall_mem_cons.mp unquoted with ⟨_, tail⟩
          rw [List.cons_prefix_cons, List.cons_prefix_cons, induction tail]

/-! ## The mark -/

theorem withoutPrefix?_eq_some_iff {expected text rest : List Char} :
    withoutPrefix? expected text = some rest ↔ text = expected ++ rest := by
  induction expected generalizing text with
  | nil => simp [withoutPrefix?]
  | cons first others induction =>
      cases text with
      | nil => simp [withoutPrefix?]
      | cons character text =>
          rw [withoutPrefix?, List.cons_append, List.cons.injEq]
          by_cases same : first = character
          · rw [if_pos same, induction, and_iff_right same.symm]
          · simp [same, Ne.symm same]

theorem splitImmutable_of_marked {text : String} {rest : List Char}
    (marked : text.toList = immutableMarker.toList ++ rest) :
    splitImmutable text = (Text.trim (String.ofList rest), true) := by
  rw [splitImmutable, withoutPrefix?_eq_some_iff.mpr marked]

theorem splitImmutable_of_unmarked {text : String}
    (unmarked : ¬immutableMarker.toList <+: text.toList) :
    splitImmutable text = (Text.trim text, false) := by
  have without : withoutPrefix? immutableMarker.toList text.toList = none := by
    rw [Option.eq_none_iff_forall_ne_some]
    intro rest found
    exact unmarked ⟨rest, (withoutPrefix?_eq_some_iff.mp found).symm⟩
  rw [splitImmutable, without]

theorem marked_iff (raw : String) :
    immutableMarker.toList <+: (clean raw).toList ↔
      "(immutable)".toList <+: undeleted raw.toList := by
  have unquoted : immutableMarker.toList.all (· ∉ '\'' :: quotes) := by decide
  exact (cleaned_iff.mpr rfl).prefix_iff fun character member =>
    of_decide_eq_true (List.all_eq_true.mp unquoted character member)

/-- The description is the cleaned text, behind the mark if there is one, without the blanks around
it. -/
structure Describes (raw description : String) (immutable : Bool) : Prop where
  marked : immutable ↔ "(immutable)".toList <+: undeleted raw.toList
  cleaned : ∃ rest, Text.IsCore rest description.toList ∧
    Cleaned raw.toList ((if immutable then "(immutable)".toList else []) ++ rest)

theorem describes_splitImmutable (raw : String) :
    Describes raw (splitImmutable (clean raw)).1 (splitImmutable (clean raw)).2 := by
  by_cases marked : immutableMarker.toList <+: (clean raw).toList
  · rcases marked with ⟨rest, same⟩
    have core := Text.isCore_trim (String.ofList rest)
    rw [String.toList_ofList] at core
    rw [splitImmutable_of_marked same.symm]
    constructor
    · exact iff_of_true rfl ((marked_iff raw).mp ⟨rest, same⟩)
    · refine ⟨rest, core, ?_⟩
      rw [if_pos rfl]
      exact cleaned_iff.mpr same
  · rw [splitImmutable_of_unmarked marked]
    constructor
    · exact iff_of_false Bool.false_ne_true (mt (marked_iff raw).mpr marked)
    · refine ⟨(clean raw).toList, Text.isCore_trim (clean raw), ?_⟩
      rw [if_neg Bool.false_ne_true, List.nil_append]
      exact cleaned_iff.mpr rfl

theorem Describes.eq_splitImmutable {raw description : String} {immutable : Bool}
    (describes : Describes raw description immutable) :
    splitImmutable (clean raw) = (description, immutable) := by
  rcases describes with ⟨marked, rest, core, cleaned⟩
  cases immutable with
  | true =>
      rw [if_pos rfl] at cleaned
      have same : immutableMarker.toList ++ rest = (clean raw).toList := cleaned_iff.mp cleaned
      have split := splitImmutable_of_marked same.symm
      have trimmed : description.toList = (Text.trim (String.ofList rest)).toList :=
        Text.IsCore.eq_trim (by rwa [String.toList_ofList])
      rw [split, String.toList_inj.mp trimmed]
  | false =>
      rw [if_neg Bool.false_ne_true, List.nil_append] at cleaned
      have same : rest = (clean raw).toList := cleaned_iff.mp cleaned
      have unmarked : ¬immutableMarker.toList <+: (clean raw).toList :=
        fun found => Bool.false_ne_true (marked.mpr ((marked_iff raw).mp found))
      have trimmed : description.toList = (Text.trim (clean raw)).toList :=
        Text.IsCore.eq_trim (by rwa [← same])
      rw [splitImmutable_of_unmarked unmarked, String.toList_inj.mp trimmed]

theorem Describes.plain {raw description : String} {immutable : Bool}
    (describes : Describes raw description immutable) :
    ∀ character ∈ description.toList, character ∉ deletions ++ quotes := by
  rcases describes with ⟨_, rest, ⟨⟨before, after, _, _, same⟩, _, _⟩, cleaned⟩
  intro character member
  apply cleaned.plain
  rw [same]
  exact List.mem_append_right _ (List.mem_append_left _ (List.mem_append_right _ member))

theorem describes_iff {raw description : String} {immutable : Bool} :
    Describes raw description immutable ↔
      splitImmutable (clean raw) = (description, immutable) := by
  constructor
  · exact Describes.eq_splitImmutable
  · intro split
    have describes := describes_splitImmutable raw
    rwa [split] at describes

end Description

/-! ## Descriptions of properties -/

open Description

/-- The property has the description of its schema and the mark that stands before it. A schema
without a description has an empty one. -/
def IsDescribed (node : SchemaNode) (property : Property) : Prop :=
  Describes (node.description.getD "") property.description property.immutable

theorem Metadata.describes_of_derive {node : SchemaNode} {required : Bool}
    {kind? : Option ScalarKind} {path : SchemaPath} {metadata : Metadata}
    (derived : derive node required kind? path = .ok metadata) :
    Describes (node.description.getD "") metadata.description metadata.immutable := by
  have describes := describes_splitImmutable (node.description.getD "")
  unfold derive at derived
  generalize splitImmutable (clean (node.description.getD "")) = split at derived describes
  cases kind? with
  | none =>
      cases derived
      exact describes
  | some kind =>
      rcases Outcome.bind_eq_ok.mp derived with ⟨default, _, continued⟩
      rcases Outcome.bind_eq_ok.mp continued with ⟨rules, _, made⟩
      cases made
      exact describes

theorem Resolver.makesOnly_described (resolver : Resolver) : resolver.MakesOnly IsDescribed := by
  intro required path depth name child property resolved
  rcases fieldOf_eq_ok.mp resolved with ⟨type, children, metadata, _, derived, rfl⟩
  exact Metadata.describes_of_derive derived

/-- Cleaning is what `Cleaned` says and done once, and of every text it leaves one description and
one mark. Each property of a document, at any depth, has those of its schema. -/
theorem descriptions_exact :
    (∀ (raw : String) text, Cleaned raw.toList text ↔ text = (clean raw).toList) ∧
    (∀ raw, clean (clean raw) = clean raw) ∧
    (∀ raw description immutable, Describes raw description immutable ↔
      splitImmutable (clean raw) = (description, immutable)) ∧
    (∀ raw description immutable, Describes raw description immutable →
      ∀ character ∈ description.toList, character ∉ ['\n', '\r', '\\', '`', '"']) ∧
    ∀ definition maxDepth document, assemble definition maxDepth = .ok document →
      ∃ version spec status, definition.versions.head? = some version ∧
        Assembly.subtrees version = .ok (spec, status) ∧
        spec.EachField IsDescribed document.specProperties ∧
        status.EachField IsDescribed document.statusProperties := by
  refine ⟨?_, clean_clean, ?_, ?_, ?_⟩
  · intro raw text
    exact cleaned_iff
  · intro raw description immutable
    exact describes_iff
  · intro raw description immutable describes character member
    exact describes.plain character member
  · intro definition maxDepth document assembled
    rcases Assembly.assemble_eq_ok.mp assembled with ⟨version, spec, status, specProperties,
      statusProperties, first, split, specResolved, statusResolved, rfl⟩
    refine ⟨version, spec, status, first, split, ?_, ?_⟩
    · exact Resolver.eachField_of_resolveProperties (Resolver.makesOnly_described _) specResolved
    · exact Resolver.eachField_of_resolveProperties (Resolver.makesOnly_described _) statusResolved

/-- A list of zones, whose name has its mark broken over two lines. -/
def zonesSchema : SchemaNode where
  type := some "object"
  properties := [("zones", {
    type := some "array"
    items := some {
      type := some "object"
      properties := [("name", {
        type := some "string"
        description := some "(immu\ntable)\t`eu` or \"us\"\\ \n" })] } })]

def noteSchema : SchemaNode where
  type := some "object"
  properties := [("note", { type := some "string", description := some " (immutable)" })]

def zonesDefinition : CustomResourceDefinition where
  apiVersion := none
  kind := none
  group := "example.org"
  names := ⟨"Cluster", "clusters"⟩
  versions := [⟨"v1", some { properties := [("spec", zonesSchema), ("status", noteSchema)] }⟩]

theorem zonesDefinition_described :
    ∃ document version spec status, assemble zonesDefinition 2 = .ok document ∧
      (((document.specProperties.flatMap (·.children)) ++ document.statusProperties).map fun field =>
        (field.name, field.description, field.immutable)) =
          [("name", "'eu' or 'us'", true), ("note", "(immutable)", false)] ∧
      Describes "(immu\ntable)\t`eu` or \"us\"\\ \n" "'eu' or 'us'" true ∧
      zonesDefinition.versions.head? = some version ∧
      Assembly.subtrees version = .ok (spec, status) ∧
      spec.EachField IsDescribed document.specProperties ∧
      status.EachField IsDescribed document.statusProperties := by
  rcases descriptions_exact with ⟨_, _, splits, _, documents⟩
  have assembled : assemble zonesDefinition 2 = .ok _ := rfl
  rcases documents _ _ _ assembled with ⟨version, spec, status, holds⟩
  refine ⟨_, version, spec, status, assembled, ?_, (splits _ _ _).mpr ?_, holds⟩
  · simp only [Assembly.document, Property.sortSiblings, List.mergeSort_singleton]
    decide +kernel
  · decide +kernel

end CrdCompiler
