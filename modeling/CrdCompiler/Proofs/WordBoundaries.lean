import CrdCompiler.Naming
import Mathlib.Data.Char
import Mathlib.Data.List.Basic
import Mathlib.Data.Nat.Find

/-! # Word boundaries of attribute names

Each pass over a key replaces matches of a pattern: the leftmost first, as long as it can be, and
the next behind it. What a match takes with it is no start of another, so that the first pass can
leave out a capitalized word. The second pass finds the boundaries before those, and the two passes
together put an underscore wherever a rule on the characters next to each other says so.
-/

namespace CrdCompiler.Naming

/-! ## Replacement of matches

A pattern has two groups, the first of which is one character.
-/

/-- The text with an underscore between the two groups of each match. Matches are taken from the
left, each as long as it can be, and do not overlap. -/
inductive Replaced (Groups : Char → List Char → Prop) : List Char → List Char → Prop where
  | done : Replaced Groups [] []
  | found {first : Char} {second rest result : List Char} (groups : Groups first second)
      (longest : ∀ others, Groups first others → others <+: second ++ rest →
        others.length ≤ second.length)
      (further : Replaced Groups rest result) :
      Replaced Groups (first :: (second ++ rest)) (first :: '_' :: (second ++ result))
  | passed {character : Char} {rest result : List Char}
      (unmatched : ∀ second, Groups character second → ¬second <+: rest)
      (further : Replaced Groups rest result) :
      Replaced Groups (character :: rest) (character :: result)

namespace Replaced

variable {Groups : Char → List Char → Prop}

theorem exists_longest {first : Char} {second text : List Char} (groups : Groups first second)
    (leads : second <+: text) :
    ∃ longest rest, Groups first longest ∧ text = longest ++ rest ∧
      ∀ others, Groups first others → others <+: text → others.length ≤ longest.length := by
  classical
  have taken {others : List Char} (matching : Groups first others) (leads : others <+: text) :
      Groups first (text.take others.length) := by
    rwa [← List.prefix_iff_eq_take.mp leads]
  let Matching (width : Nat) : Prop := Groups first (text.take width)
  let width := Nat.findGreatest Matching text.length
  refine ⟨text.take width, text.drop width, ?_, (List.take_append_drop width text).symm, ?_⟩
  · exact Nat.findGreatest_spec (P := Matching) leads.length_le (taken groups leads)
  · intro others matching othersLead
    rw [List.length_take_of_le (Nat.findGreatest_le text.length)]
    exact Nat.le_findGreatest othersLead.length_le (taken matching othersLead)

theorem total (Groups : Char → List Char → Prop) (text : List Char) :
    ∃ result, Replaced Groups text result := by
  cases text with
  | nil => exact ⟨[], done⟩
  | cons character rest =>
      by_cases matched : ∃ second, Groups character second ∧ second <+: rest
      · rcases matched with ⟨second, groups, leads⟩
        rcases exists_longest groups leads with ⟨second, behind, groups, rfl, longest⟩
        rcases total Groups behind with ⟨result, further⟩
        exact ⟨_, found groups longest further⟩
      · rcases total Groups rest with ⟨result, further⟩
        exact ⟨_, passed (fun second groups leads => matched ⟨second, groups, leads⟩) further⟩
termination_by text.length

/-- A function that puts the underscore in the first match and goes on behind it computes the
replacement. -/
theorem iff_eq {pass : List Char → List Char} (empty : pass [] = [])
    (atMatch : ∀ {first second rest}, Groups first second →
      (∀ others, Groups first others → others <+: second ++ rest →
        others.length ≤ second.length) →
      pass (first :: (second ++ rest)) = first :: '_' :: (second ++ pass rest))
    (elsewhere : ∀ {character rest}, (∀ second, Groups character second → ¬second <+: rest) →
      pass (character :: rest) = character :: pass rest)
    {text result : List Char} : Replaced Groups text result ↔ result = pass text := by
  have computed {text result : List Char} (replaced : Replaced Groups text result) :
      result = pass text := by
    induction replaced with
    | done => exact empty.symm
    | found groups longest further induction => rw [atMatch groups longest, induction]
    | passed unmatched further induction => rw [elsewhere unmatched, induction]
  constructor
  · exact computed
  · rintro rfl
    rcases total Groups text with ⟨result, replaced⟩
    rwa [← computed replaced]

end Replaced

/-- The groups of the first pass: any character on the line, and a capital followed by one small
letter or more. -/
def CapitalizedWord (first : Char) (second : List Char) : Prop :=
  first ≠ '\n' ∧ ∃ capital smalls, second = capital :: smalls ∧ isCapital capital ∧
    smalls ≠ [] ∧ ∀ small ∈ smalls, isSmall small

/-- The groups of the second pass: a small letter or digit, and a capital. -/
def CapitalBehind (first : Char) (second : List Char) : Prop :=
  (isSmall first ∨ isDigit first) ∧ ∃ capital, second = [capital] ∧ isCapital capital

/-! ## The first pass -/

theorem markWords_small {character : Char} {rest : List Char} (small : isSmall character) :
    markWords true (character :: rest) = character :: markWords true rest := by
  conv_lhs => unfold markWords
  rw [if_pos (by simpa using small)]

theorem markWords_word {character capital next : Char} {rest : List Char}
    (onLine : character ≠ '\n') (large : isCapital capital) (small : isSmall next) :
    markWords false (character :: capital :: next :: rest) =
      character :: '_' :: capital :: next :: markWords true rest := by
  rw [markWords, if_neg (by simp), if_pos (by simp [onLine, large, small])]

theorem markWords_passed {character : Char} {rest : List Char}
    (noWord : ∀ capital small tail, rest = capital :: small :: tail →
      ¬(character ≠ '\n' ∧ isCapital capital ∧ isSmall small)) :
    markWords false (character :: rest) = character :: markWords false rest := by
  conv_lhs => unfold markWords
  rw [if_neg (by simp)]
  split
  · rename_i capital small tail
    rw [if_neg]
    simpa [and_assoc] using noWord capital small tail rfl
  · rfl

theorem markWords_behind {text : List Char} (ended : ∀ character ∈ text.head?, ¬isSmall character) :
    markWords true text = markWords false text := by
  cases text with
  | nil => rfl
  | cons character rest =>
      have other := ended character rfl
      unfold markWords
      rw [if_neg (by simp [other]), if_neg (by simp)]

theorem markWords_smalls {smalls rest : List Char} (allSmall : ∀ small ∈ smalls, isSmall small) :
    markWords true (smalls ++ rest) = smalls ++ markWords true rest := by
  induction smalls with
  | nil => rfl
  | cons small smalls induction =>
      rcases List.forall_mem_cons.mp allSmall with ⟨head, tail⟩
      rw [List.cons_append, markWords_small head, induction tail, List.cons_append]

theorem replaced_capitalizedWord {text result : List Char} :
    Replaced CapitalizedWord text result ↔ result = markWords false text := by
  apply Replaced.iff_eq
  · rfl
  · intro first second rest groups longest
    rcases groups with ⟨onLine, capital, smalls, rfl, large, inhabited, allSmall⟩
    have ended : ∀ character ∈ rest.head?, ¬isSmall character := by
      intro character begins small
      rcases List.head?_eq_some_iff.mp begins with ⟨behind, rfl⟩
      have longer : CapitalizedWord first (capital :: (smalls ++ [character])) := by
        refine ⟨onLine, capital, smalls ++ [character], rfl, large, by simp, ?_⟩
        simpa [or_imp, forall_and] using And.intro allSmall small
      have bounded := longest _ longer ⟨behind, by simp⟩
      simp only [List.length_cons, List.length_append, List.length_nil] at bounded
      omega
    cases smalls with
    | nil => exact absurd rfl inhabited
    | cons small smalls =>
        rcases List.forall_mem_cons.mp allSmall with ⟨head, tail⟩
        rw [List.cons_append, List.cons_append, markWords_word onLine large head,
          markWords_smalls tail, markWords_behind ended]
        rfl
  · intro character rest unmatched
    apply markWords_passed
    rintro capital next tail rfl ⟨onLine, large, small⟩
    refine unmatched [capital, next] ?_ ⟨tail, rfl⟩
    exact ⟨onLine, capital, [next], rfl, large, List.cons_ne_nil _ _, by simpa using small⟩

/-! ## The second pass -/

theorem markCapitals_match {character capital : Char} {rest : List Char}
    (smallOrDigit : isSmall character ∨ isDigit character) (large : isCapital capital) :
    markCapitals (character :: capital :: rest) =
      character :: '_' :: capital :: markCapitals rest := by
  rw [markCapitals, if_pos (by simpa [large] using smallOrDigit)]

theorem markCapitals_passed {character : Char} {rest : List Char}
    (noCapital : ∀ capital ∈ rest.head?,
      ¬((isSmall character ∨ isDigit character) ∧ isCapital capital)) :
    markCapitals (character :: rest) = character :: markCapitals rest := by
  cases rest with
  | nil => rfl
  | cons capital tail =>
      rw [markCapitals, if_neg]
      simpa using noCapital capital rfl

theorem replaced_capitalBehind {text result : List Char} :
    Replaced CapitalBehind text result ↔ result = markCapitals text := by
  apply Replaced.iff_eq
  · rfl
  · intro first second rest groups _
    rcases groups with ⟨smallOrDigit, capital, rfl, large⟩
    exact markCapitals_match smallOrDigit large
  · intro character rest unmatched
    apply markCapitals_passed
    rintro capital begins ⟨smallOrDigit, large⟩
    rcases List.head?_eq_some_iff.mp begins with ⟨tail, rfl⟩
    exact unmatched [capital] ⟨smallOrDigit, capital, rfl, large⟩ ⟨tail, rfl⟩

/-! ## A rule for each position

A rule on a character and the ones beside it says where underscores go.
-/

def isSmallOrDigit (character : Char) : Bool :=
  isSmall character || isDigit character

def capitalRule (before : Option Char) (character : Char) (_after : Option Char) : Bool :=
  isCapital character && before.any isSmallOrDigit

def boundaryRule (before : Option Char) (character : Char) (after : Option Char) : Bool :=
  isCapital character &&
    (before.any isSmallOrDigit || before.any (· != '\n') && after.any isSmall)

section Inserting

variable (rule : Option Char → Char → Option Char → Bool)

def inserting (before : Option Char) : List Char → List Char
  | [] => []
  | character :: rest =>
    if rule before character rest.head? then
      '_' :: character :: inserting (some character) rest
    else character :: inserting (some character) rest

variable {rule} {before : Option Char} {character : Char} {rest : List Char}

theorem inserting_mark (marked : rule before character rest.head?) :
    inserting rule before (character :: rest) =
      '_' :: character :: inserting rule (some character) rest := by
  rw [inserting, if_pos marked]

theorem inserting_plain (plain : ¬rule before character rest.head?) :
    inserting rule before (character :: rest) =
      character :: inserting rule (some character) rest := by
  rw [inserting, if_neg plain]

theorem inserting_congr {other : Option Char → Char → Option Char → Bool} {others : List Char}
    (sameMark : rule before character rest.head? = other before character others.head?)
    (same : inserting rule (some character) rest = inserting other (some character) others) :
    inserting rule before (character :: rest) = inserting other before (character :: others) := by
  rw [inserting, inserting, sameMark, same]

end Inserting

theorem isSmallOrDigit_eq_true {character : Char} :
    isSmallOrDigit character ↔ isSmall character ∨ isDigit character := by
  rw [isSmallOrDigit, Bool.or_eq_true]

theorem isSmallOrDigit_of_isSmall {character : Char} (small : isSmall character) :
    isSmallOrDigit character :=
  isSmallOrDigit_eq_true.mpr (.inl small)

theorem not_isCapital_of_isSmallOrDigit {character : Char}
    (smallOrDigit : isSmallOrDigit character) : ¬isCapital character := by
  intro large
  simp only [isSmallOrDigit, isSmall, isDigit, isCapital, Bool.or_eq_true, Bool.and_eq_true,
    decide_eq_true_eq] at smallOrDigit large
  rcases smallOrDigit with ⟨above, _⟩ | ⟨_, below⟩
  · have apart : 'Z' < 'a' := by decide
    exact absurd large.2 (not_le_of_gt (lt_of_lt_of_le apart above))
  · have apart : '9' < 'A' := by decide
    exact absurd large.1 (not_le_of_gt (lt_of_le_of_lt below apart))

theorem not_isCapital_of_isSmall {character : Char} (small : isSmall character) :
    ¬isCapital character :=
  not_isCapital_of_isSmallOrDigit (isSmallOrDigit_of_isSmall small)

/-- The second pass goes by its rule at every place, as a capital that it takes with a match does not
begin another. -/
theorem markCapitals_inserting {before : Option Char} {text : List Char}
    (quiet : ∀ character ∈ text.head?, ¬(isCapital character ∧ before.any isSmallOrDigit)) :
    markCapitals text = inserting capitalRule before text := by
  fun_induction markCapitals text generalizing before with
  | case1 => rfl
  | case2 character capital tail matched induction =>
      simp only [Bool.and_eq_true, Bool.or_eq_true, ← isSmallOrDigit_eq_true] at matched
      rcases matched with ⟨smallOrDigit, large⟩
      have taken : ¬isSmallOrDigit capital :=
        fun other => not_isCapital_of_isSmallOrDigit other large
      rw [inserting_plain, inserting_mark, ← induction]
      · exact fun _ _ marked => taken marked.2
      · simp [capitalRule, large, smallOrDigit]
      · simpa [capitalRule] using quiet character rfl
  | case3 character capital tail unmatched induction =>
      simp only [Bool.and_eq_true, Bool.or_eq_true, ← isSmallOrDigit_eq_true] at unmatched
      rw [inserting_plain, ← induction]
      · rintro _ ⟨⟩ ⟨large, smallOrDigit⟩
        exact unmatched ⟨smallOrDigit, large⟩
      · simpa [capitalRule] using quiet character rfl
  | case4 character =>
      rw [inserting_plain]
      · rfl
      · simpa [capitalRule] using quiet character rfl

/-- At the first character of the text the rule of the second pass agrees with the rule for both. It
does wherever the search for words stands: a word that starts there is behind a small letter or
digit or first on its line. -/
def Settled (before : Option Char) (text : List Char) : Prop :=
  ∀ character rest, text = character :: rest →
    capitalRule before character rest.head? = boundaryRule before character rest.head?

theorem settled_of_isSmallOrDigit {character : Char} {text : List Char}
    (smallOrDigit : isSmallOrDigit character) : Settled (some character) text := by
  intro next rest _
  simp [capitalRule, boundaryRule, smallOrDigit]

theorem settled_of_noWord {character : Char} {text : List Char}
    (noWord : ∀ capital small tail, text = capital :: small :: tail →
      ¬(character ≠ '\n' ∧ isCapital capital ∧ isSmall small)) : Settled (some character) text := by
  intro capital rest same
  cases rest with
  | nil => simp [capitalRule, boundaryRule]
  | cons small tail =>
      have absent := noWord capital small tail same
      rw [Bool.eq_iff_iff]
      simp only [capitalRule, boundaryRule, Option.any_some, List.head?_cons, Bool.and_eq_true,
        Bool.or_eq_true, bne_iff_ne]
      tauto

/-- The boundaries that the first pass leaves out are those of the second. -/
theorem markWords_inserting {before : Option Char} {inWord : Bool} {text : List Char}
    (settled : Settled before text) :
    inserting capitalRule before (markWords inWord text) = inserting boundaryRule before text := by
  fun_induction markWords inWord text generalizing before with
  | case1 => rfl
  | case2 inWord character rest behind induction =>
      have small : isSmall character := (Bool.and_eq_true_iff.mp behind).2
      refine inserting_congr (settled character rest rfl) (induction ?_)
      exact settled_of_isSmallOrDigit (isSmallOrDigit_of_isSmall small)
  | case3 inWord character _ capital next tail word induction =>
      simp only [Bool.and_eq_true, bne_iff_ne] at word
      rcases word with ⟨⟨onLine, large⟩, small⟩
      refine inserting_congr (settled character _ rfl) ?_
      have marked : inserting boundaryRule (some character) (capital :: next :: tail) =
          '_' :: capital :: inserting boundaryRule (some capital) (next :: tail) :=
        inserting_mark (by simp [boundaryRule, onLine, large, small])
      -- The underscore of the first pass keeps the second from putting one before the capital.
      rw [marked, inserting_plain, inserting_plain]
      · congr 2
        have other := not_isCapital_of_isSmall small
        refine inserting_congr (by simp [capitalRule, boundaryRule, other]) (induction ?_)
        exact settled_of_isSmallOrDigit (isSmallOrDigit_of_isSmall small)
      · simp [capitalRule, isSmallOrDigit, isSmall, isDigit]
      · simp [capitalRule, isCapital]
  | case4 inWord character _ capital next tail noWord induction =>
      refine inserting_congr (settled character _ rfl) (induction (settled_of_noWord ?_))
      rintro _ _ _ ⟨⟩
      simpa [and_assoc] using noWord
  | case5 inWord character _ rest short induction =>
      refine inserting_congr (settled character rest rfl) (induction (settled_of_noWord ?_))
      intro capital next tail same
      exact absurd same (short capital next tail)

example : markWords false "aBcDe".toList = "a_BcDe".toList := by decide +kernel

theorem markBoundaries_inserting (name : List Char) :
    markBoundaries name = inserting boundaryRule none name := by
  have quiet : ∀ character ∈ (markWords false name).head?,
      ¬(isCapital character ∧ (none : Option Char).any isSmallOrDigit) := by simp
  have settled : Settled none name := by
    intro character rest _
    simp [capitalRule, boundaryRule]
  rw [markBoundaries, markCapitals_inserting quiet, markWords_inserting settled]

/-! ## Positions in the key -/

/-- An underscore goes before this index: a capital is there, behind a small letter or digit, or
behind any character on its line with a small letter to follow. -/
def IsBoundary (name : List Char) (index : Nat) : Prop :=
  1 ≤ index ∧ name[index]?.any isCapital ∧
    (name[index - 1]?.any isSmall ∨ name[index - 1]?.any isDigit ∨
      name[index + 1]?.any isSmall ∧ name[index - 1]? ≠ some '\n')

instance (name : List Char) (index : Nat) : Decidable (IsBoundary name index) :=
  inferInstanceAs (Decidable (_ ∧ _))

def underscored (name : List Char) : List Char :=
  name.zipIdx.flatMap fun entry => if IsBoundary name entry.2 then ['_', entry.1] else [entry.1]

theorem isBoundary_iff {before rest : List Char} {character : Char} :
    IsBoundary (before ++ character :: rest) before.length ↔
      boundaryRule before.getLast? character rest.head? := by
  rcases List.eq_nil_or_concat' before with rfl | ⟨front, last, rfl⟩
  · simp [IsBoundary, boundaryRule]
  · have here : (front ++ [last] ++ character :: rest)[front.length + 1]? = some character := by
      simp
    have behind : (front ++ [last] ++ character :: rest)[front.length]? = some last := by simp
    have ahead : (front ++ [last] ++ character :: rest)[front.length + 1 + 1]? = rest.head? := by
      rw [List.getElem?_append_right (by simp), List.head?_eq_getElem?, List.length_append,
        List.length_singleton, Nat.add_sub_cancel_left, List.getElem?_cons_succ]
    simp only [IsBoundary, boundaryRule, isSmallOrDigit, List.length_append, List.length_singleton,
      Nat.add_sub_cancel, here, behind, ahead, List.getLast?_concat, Option.any_some,
      Bool.and_eq_true, Bool.or_eq_true, bne_iff_ne, ne_eq, Option.some.injEq]
    have further : 1 ≤ front.length + 1 := Nat.le_add_left 1 _
    tauto

theorem underscored_inserting (before rest : List Char) :
    ((rest.zipIdx before.length).flatMap fun entry =>
      if IsBoundary (before ++ rest) entry.2 then ['_', entry.1] else [entry.1]) =
        inserting boundaryRule before.getLast? rest := by
  induction rest generalizing before with
  | nil => rfl
  | cons character rest induction =>
      have further := induction (before ++ [character])
      rw [List.length_append, List.length_singleton, List.append_assoc, List.singleton_append,
        List.getLast?_concat] at further
      rw [List.zipIdx_cons, List.flatMap_cons, further]
      by_cases marked : IsBoundary (before ++ character :: rest) before.length
      · rw [if_pos marked, inserting_mark (isBoundary_iff.mp marked)]
        rfl
      · rw [if_neg marked, inserting_plain (mt isBoundary_iff.mpr marked)]
        rfl

/-- The two replacements, one after the other, put an underscore before each boundary of the key and
change nothing else. The attribute name is that text with underscores for separators, in lower
case. -/
theorem attributeName_by_position (name : String) :
    (∀ marked,
      (∃ words, Replaced CapitalizedWord name.toList words ∧ Replaced CapitalBehind words marked) ↔
        marked = underscored name.toList) ∧
    markBoundaries name.toList = underscored name.toList ∧
    attributeName name = Text.lowercase (String.ofList ((underscored name.toList).map
      fun character => if isSeparator character then '_' else character)) := by
  have positions : markBoundaries name.toList = underscored name.toList := by
    rw [markBoundaries_inserting]
    exact (underscored_inserting [] name.toList).symm
  refine ⟨?_, positions, ?_⟩
  · intro marked
    simp only [replaced_capitalizedWord, replaced_capitalBehind, exists_eq_left]
    rw [← positions, markBoundaries]
  · rw [attributeName, positions]

end CrdCompiler.Naming
