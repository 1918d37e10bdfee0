import CrdCompiler.Proofs.NumberSpelling
import CrdCompiler.Reading
import Mathlib.Data.String.Basic

/-! # Content of scalars

What a plain scalar without a tag says as content, by cases: a null, a flag, an integer, a double or
a text. What it says when one of these is asked for follows from that, for the spellings of which
every reader makes the same.
-/

namespace CrdCompiler.Yaml.Scalar

/-! ## Plain content -/

def integer64? (text : String) : Option Integer64 :=
  (integer? text).bind Integer64.ofInt?

theorem integerContent?_eq_some {text : String} {content : Option Content}
    (told : integerContent? text = some content) :
    content = (integer64? text).map (signedContent text) := by
  rw [integerContent?] at told
  rw [integer64?]
  cases integer : integer? text with
  | none =>
      rw [integer] at told
      cases told
  | some value =>
      rw [integer] at told
      dsimp only at told
      rw [Option.bind_some]
      cases fits : Integer64.ofInt? value with
      | some number =>
          rw [fits] at told
          cases told
          rfl
      | none =>
          rw [fits] at told
          rcases Option.ite_none_right_eq_some.mp told with ⟨_, same⟩
          cases same
          rfl

theorem integer64?_of_no_content {text : String} (noContent : integerContent? text = none) :
    integer64? text = none := by
  rw [integerContent?] at noContent
  rw [integer64?]
  cases integer : integer? text with
  | none => rfl
  | some value =>
      rw [integer] at noContent
      cases fits : Integer64.ofInt? value with
      | some number =>
          dsimp only at noContent
          rw [fits] at noContent
          cases noContent
      | none => exact fits

theorem integer64?_eq_some {text : String} {number : Integer64}
    (told : integer64? text = some number) : integer? text = some number.value := by
  rcases Option.bind_eq_some_iff.mp told with ⟨value, read, fits⟩
  rw [read]
  rw [Integer64.ofInt?] at fits
  split at fits
  · cases fits
    rfl
  · cases fits

theorem nothing_else_of_null {text : String} (null : text.isEmpty || isNull text) :
    flag? text = none ∧ integer64? text = none ∧ number? text = none := by
  rcases Bool.or_eq_true_iff.mp null with empty | word
  · rw [String.isEmpty_iff.mp empty]
    exact ⟨rfl, rfl, rfl⟩
  · simp only [isNull, List.contains_eq_mem, List.mem_cons, List.not_mem_nil, or_false,
      decide_eq_true_eq] at word
    rcases word with rfl | rfl | rfl | rfl <;> exact ⟨rfl, rfl, rfl⟩

theorem no_number_of_flag {text : String} {value : Bool} (flag : flag? text = some value) :
    integer64? text = none ∧ number? text = none := by
  have word : text ∈ ["true", "True", "TRUE", "false", "False", "FALSE"] := by
    rw [flag?] at flag
    split at flag
    · rename_i positive
      exact List.mem_append_left ["false", "False", "FALSE"] (List.contains_iff_mem.mp positive)
    · split at flag
      · rename_i negative
        exact List.mem_append_right ["true", "True", "TRUE"] (List.contains_iff_mem.mp negative)
      · cases flag
  simp only [List.mem_cons, List.not_mem_nil, or_false] at word
  rcases word with rfl | rfl | rfl | rfl | rfl | rfl <;> exact ⟨rfl, rfl⟩

/-- What plain content is, by the first of its kinds that the text belongs to. -/
inductive Plain (text : String) : Option Content → Prop where
  | null (blank : text.isEmpty || isNull text) (noFlag : flag? text = none)
      (noInteger : integer64? text = none) (noNumber : number? text = none) :
      Plain text (some .null)
  | flag {value : Bool} (written : ¬(text.isEmpty || isNull text)) (flag : flag? text = some value)
      (noInteger : integer64? text = none) (noNumber : number? text = none) :
      Plain text (some (.bool value))
  | integer (written : ¬(text.isEmpty || isNull text)) (noFlag : flag? text = none) :
      Plain text ((integer64? text).map (signedContent text))
  | float {value : Binary64} (written : ¬(text.isEmpty || isNull text)) (noFlag : flag? text = none)
      (noInteger : integer64? text = none) (number : number? text = some value) :
      Plain text (some (.float value))
  | text (written : ¬(text.isEmpty || isNull text)) (noFlag : flag? text = none)
      (noInteger : integer64? text = none)
      (noNumber : hasLeadingZero text.toList ∨ number? text = none) : Plain text (some (.text text))

theorem plain (text : String) : Plain text (plainContent? text) := by
  rw [plainContent?]
  split
  · rename_i blank
    rcases nothing_else_of_null blank with ⟨noFlag, noInteger, noNumber⟩
    exact .null blank noFlag noInteger noNumber
  · rename_i written
    split
    · rename_i flag
      rcases no_number_of_flag flag with ⟨noInteger, noNumber⟩
      exact .flag written flag noInteger noNumber
    · rename_i noFlag
      split
      · rename_i told
        rw [integerContent?_eq_some told]
        exact .integer written noFlag
      · rename_i noContent
        have noInteger := integer64?_of_no_content noContent
        split
        · rename_i leading
          exact .text written noFlag noInteger (.inl leading)
        · split
          · rename_i number
            exact .float written noFlag noInteger number
          · rename_i noNumber
            exact .text written noFlag noInteger (.inr noNumber)

theorem signedContent_eq_or (text : String) (number : Integer64) :
    signedContent text number = .integer number ∨ signedContent text number = .minusZero := by
  rw [signedContent]
  split
  · exact .inr rfl
  · exact .inl rfl

theorem signedContent_flat (text : String) (number : Integer64) :
    (signedContent text number).depth = 0 := by
  rcases signedContent_eq_or text number with same | same <;> rw [same] <;> rfl

theorem plainContent?_eq_null_iff (text : String) :
    plainContent? text = some .null ↔ text.isEmpty || isNull text := by
  have kind := plain text
  generalize plainContent? text = content at kind ⊢
  cases kind with
  | null blank => exact iff_of_true rfl blank
  | integer written noFlag =>
      refine iff_of_false ?_ written
      cases integer64? text with
      | none => exact nofun
      | some number =>
          intro null
          rcases signedContent_eq_or text number with same | same <;>
            rw [Option.map_some, same] at null <;>
            cases null
  | flag written => exact iff_of_false nofun written
  | float written => exact iff_of_false nofun written
  | text written => exact iff_of_false nofun written

theorem plainContent?_flat {text : String} {content : Content}
    (told : plainContent? text = some content) : content.depth = 0 := by
  have kind := plain text
  rw [told] at kind
  generalize said : some content = answer at kind
  cases kind with
  | integer written noFlag =>
      rcases Option.map_eq_some_iff.mp said.symm with ⟨number, _, rfl⟩
      exact signedContent_flat text number
  | _ =>
      cases said
      rfl

theorem content?_flat {tag : Option String} {style : ScalarStyle} {text : String}
    {content : Content} (told : content? tag style text = some content) : content.depth = 0 := by
  rw [content?.eq_def] at told
  cases tag with
  | none =>
      dsimp only at told
      split at told
      · exact plainContent?_flat told
      · cases told
        rfl
  | some name =>
      dsimp only at told
      split_ifs at told
      · rcases Option.map_eq_some_iff.mp told with ⟨value, _, rfl⟩
        rfl
      · have said := integerContent?_eq_some (Option.join_eq_some_iff.mp told)
        rcases Option.map_eq_some_iff.mp said.symm with ⟨number, _, rfl⟩
        exact signedContent_flat text number
      · rcases Option.map_eq_some_iff.mp told with ⟨value, _, rfl⟩
        rfl
      · cases told
        rfl
      · cases told
        rfl

/-! ## Plain scalars without tags -/

section

variable {text : String} {content : Content}

theorem flag?_eq_of_plain (told : plainContent? text = some content) :
    flag? text = Source.flag (m := Option) content := by
  have kind := plain text
  rw [told] at kind
  generalize said : some content = answer at kind
  cases kind with
  | flag written flag =>
      cases said
      exact flag
  | integer written noFlag =>
      rcases Option.map_eq_some_iff.mp said.symm with ⟨number, _, rfl⟩
      rw [noFlag]
      rcases signedContent_eq_or text number with same | same <;> rw [same] <;> rfl
  | null blank noFlag => cases said; exact noFlag
  | float written noFlag => cases said; exact noFlag
  | text written noFlag => cases said; exact noFlag

theorem unsigned?_eq_of_integer (unmarked : text.toList.head? ≠ some '-') :
    unsigned? text = ((integer64? text).map (signedContent text)).bind
      (Source.unsigned (m := Option)) := by
  have direct : unsigned? text = (integer64? text).bind Integer64.toUInt64? := by
    rw [unsigned?, if_neg unmarked, integer64?, Option.bind_assoc]
    rfl
  rw [direct]
  cases integer64? text with
  | none => rfl
  | some number =>
      rw [Option.map_some, signedContent, if_neg fun zero => unmarked zero.2]
      rfl

/-- Plain content is an unsigned integer just when the text is one, unless there is a minus sign:
no unsigned integer has one, but as content it may stand before a zero. -/
theorem unsigned?_eq_of_plain (unmarked : text.toList.head? ≠ some '-')
    (told : plainContent? text = some content) :
    unsigned? text = Source.unsigned (m := Option) content := by
  have kind := plain text
  rw [told] at kind
  rw [unsigned?_eq_of_integer unmarked]
  generalize said : some content = answer at kind
  cases kind with
  | integer written noFlag => rw [← said, Option.bind_some]
  | null blank noFlag noInteger => cases said; rw [noInteger]; rfl
  | flag written flag noInteger => cases said; rw [noInteger]; rfl
  | float written noFlag noInteger => cases said; rw [noInteger]; rfl
  | text written noFlag noInteger => cases said; rw [noInteger]; rfl

theorem number?_eq_of_plain (common : isCommonNumber text)
    (told : plainContent? text = some content) :
    number? text = Source.number (m := Option) content := by
  have kind := plain text
  rw [told] at kind
  generalize said : some content = answer at kind
  cases kind with
  | integer written noFlag =>
      rcases Option.map_eq_some_iff.mp said.symm with ⟨number, read, rfl⟩
      have integer := integer64?_eq_some read
      have unmarked : ¬(number.value = 0 ∧ text.toList.head? = some '-') := by
        simp only [isCommonNumber, integer, Bool.and_eq_true] at common
        rintro ⟨zero, minus⟩
        simp [zero, minus] at common
      rw [number?_of_integer? common integer, signedContent, if_neg unmarked]
      rfl
  | float written noFlag noInteger number => cases said; exact number
  | null blank noFlag noInteger noNumber => cases said; exact noNumber
  | flag written flag noInteger noNumber => cases said; exact noNumber
  | text written noFlag noInteger noNumber =>
      cases said
      rcases noNumber with leading | noNumber
      · simp [isCommonNumber, leading] at common
      · exact noNumber

/-- The text is spelled like nothing else. -/
def isPlainText (text : String) : Bool :=
  !(text.isEmpty || isNull text) && (flag? text).isNone && (integer? text).isNone &&
    (hasLeadingZero text.toList || (number? text).isNone)

example : ["", "~", "true", "-12", "0x1F", "1e3", ".nan"].all (!isPlainText ·) := by decide
example : ["object", "12 GiB", "1.2.3", "007"].all isPlainText := by decide

theorem plainContent?_of_isPlainText (plainText : isPlainText text) :
    plainContent? text = some (.text text) := by
  simp only [isPlainText, Bool.and_eq_true, Bool.not_eq_true', Option.isNone_iff_eq_none,
    Bool.or_eq_true] at plainText
  rcases plainText with ⟨⟨⟨written, noFlag⟩, noInteger⟩, noNumber⟩
  have noContent : integerContent? text = none := by
    rw [integerContent?, noInteger]
  rw [plainContent?, written, noFlag, noContent]
  rcases noNumber with leading | noNumber
  · simp [leading]
  · simp [noNumber]

end

/-! ## Clear spellings

A scalar is spelled clearly where every reader makes the same of it. Most scalars need no tag for
that, and none gets one by it.
-/

/-- A text is quoted, or it is spelled like nothing else or has a tag that makes it one. -/
def isClearText (tag : Option String) (style : ScalarStyle) (text : String) : Bool :=
  match tag with
  | none => style ≠ .plain || isPlainText text
  | some name => !([flagTag, integerTag, numberTag, nullTag].contains name)

/-- The scalar has no tag, or the tag of the type in a style that the type may have. -/
def isOfType (expected : String) (tag : Option String) (style : ScalarStyle) : Bool :=
  tag = none || tag = some expected && mayBe expected tag style

def isClearFlag (tag : Option String) (style : ScalarStyle) (_ : String) : Bool :=
  isOfType flagTag tag style

def isClearUnsigned (tag : Option String) (style : ScalarStyle) (text : String) : Bool :=
  isOfType integerTag tag style && text.toList.head? ≠ some '-'

/-- Without a tag, a number is in common notation. -/
def isClearNumber (tag : Option String) (style : ScalarStyle) (text : String) : Bool :=
  isOfType numberTag tag style && (tag ≠ none || isCommonNumber text)

/-- A null is plain and has no tag but its own. -/
def isClearNull (tag : Option String) (style : ScalarStyle) (text : String) : Bool :=
  style = .plain && (tag = none && text.isEmpty || (tag = none || tag = some nullTag) && isNull text)

section

variable {tag : Option String} {style : ScalarStyle} {text : String} {content : Content}

theorem content?_of_isClearText (clear : isClearText tag style text)
    (told : content? tag style text = some content) : content = .text text := by
  cases tag with
  | none =>
      rw [content?] at told
      split at told
      · rename_i plainStyle
        rw [plainContent?_of_isPlainText (by simpa [isClearText, plainStyle] using clear)] at told
        exact (Option.some.inj told).symm
      · exact (Option.some.inj told).symm
  | some name =>
      simp only [isClearText, List.contains_eq_mem, List.mem_cons, List.not_mem_nil, or_false,
        Bool.not_eq_true', decide_eq_false_iff_not, not_or] at clear
      rcases clear with ⟨noFlag, noInteger, noNumber, noNull⟩
      rw [content?, if_neg noFlag, if_neg noInteger, if_neg noNumber, if_neg noNull] at told
      rcases Option.ite_none_left_eq_some.mp told with ⟨_, same⟩
      exact (Option.some.inj same).symm

theorem typed_eq {expected : String} {decode : String → Option α} {source : Content → Option α}
    (ofType : isOfType expected tag style) (told : content? tag style text = some content)
    (plain : tag = none → plainContent? text = some content → decode text = source content)
    (tagged : tag = some expected → decode text = source content)
    (quoted : source (.text text) = none) :
    (if mayBe expected tag style then decode text else none) = source content := by
  rcases Bool.or_eq_true_iff.mp ofType with untagged | own
  · cases of_decide_eq_true untagged
    cases style with
    | plain => exact plain rfl told
    | _ => cases told; exact quoted.symm
  · rcases Bool.and_eq_true_iff.mp own with ⟨own, style⟩
    rw [if_pos style]
    exact tagged (of_decide_eq_true own)

theorem typed_flag_eq (clear : isClearFlag tag style text)
    (told : content? tag style text = some content) :
    (if mayBe flagTag tag style then flag? text else none) = Source.flag (m := Option) content := by
  refine typed_eq clear told (fun _ => flag?_eq_of_plain) ?_ rfl
  rintro rfl
  rcases Option.map_eq_some_iff.mp told with ⟨value, flag, rfl⟩
  exact flag

theorem typed_unsigned_eq (clear : isClearUnsigned tag style text)
    (told : content? tag style text = some content) :
    (if mayBe integerTag tag style then unsigned? text else none) =
      Source.unsigned (m := Option) content := by
  rcases Bool.and_eq_true_iff.mp clear with ⟨ofType, unmarked⟩
  have unmarked := of_decide_eq_true unmarked
  refine typed_eq ofType told (fun _ => unsigned?_eq_of_plain unmarked) ?_ rfl
  rintro rfl
  rw [unsigned?_eq_of_integer unmarked,
    ← integerContent?_eq_some (Option.join_eq_some_iff.mp told), Option.bind_some]

theorem typed_number_eq (clear : isClearNumber tag style text)
    (told : content? tag style text = some content) :
    (if mayBe numberTag tag style then number? text else none) =
      Source.number (m := Option) content := by
  rcases Bool.and_eq_true_iff.mp clear with ⟨ofType, common⟩
  refine typed_eq ofType told ?_ ?_ rfl
  · rintro rfl told
    exact number?_eq_of_plain common told
  · rintro rfl
    rcases Option.map_eq_some_iff.mp told with ⟨value, number, rfl⟩
    exact number

end

end CrdCompiler.Yaml.Scalar
