import CrdCompiler.Proofs.StringTexts

/-! # JSON texts read back

The text of a value on lines of its own is read back as that value, and no fuel is missing, if the
numbers in it are. Integers always are, and doubles by a reader that takes the nearest double for
every decimal.
-/

namespace CrdCompiler.Json

/-- The value of a text, the numbers in it read exactly. -/
def parseExactly? (text : String) : Option Content :=
  parseWith? NumberParts.nearest? text

inductive EveryNumber (holds : JsonNumber → Prop) : Json → Prop
  | null : EveryNumber holds .null
  | bool (value : Bool) : EveryNumber holds (.bool value)
  | number (value : JsonNumber) (satisfied : holds value) : EveryNumber holds (.number value)
  | string (text : String) : EveryNumber holds (.string text)
  | array {items : List Json} (each : ∀ item ∈ items, EveryNumber holds item) :
      EveryNumber holds (.array items)
  | object {members : List (String × Json)}
      (each : ∀ member ∈ members, EveryNumber holds member.2) : EveryNumber holds (.object members)

theorem EveryNumber.imp {holds implied : JsonNumber → Prop}
    (implies : ∀ number, holds number → implied number) {json : Json}
    (every : json.EveryNumber holds) : json.EveryNumber implied := by
  induction every with
  | null => exact .null
  | bool value => exact .bool value
  | number value satisfied => exact .number value (implies value satisfied)
  | string text => exact .string text
  | array _ each => exact .array each
  | object _ each => exact .object each

/-! ## Blanks -/

def IsBlank (text : List Char) : Prop :=
  ∀ character ∈ text, isSpace character

variable {blank text rest closing : List Char} {character : Char} {fuel : Nat} {indent : String}
  {numberOf? : NumberParts → Option Content}

theorem skipSpace_append (isBlank : IsBlank blank) (text : List Char) :
    skipSpace (blank ++ text) = skipSpace text :=
  List.dropWhile_append_of_pos isBlank

theorem skipSpace_cons (visible : ¬ isSpace character) (rest : List Char) :
    skipSpace (character :: rest) = character :: rest :=
  List.dropWhile_cons_of_neg visible

theorem readValue_append (numberOf? : NumberParts → Option Content) (isBlank : IsBlank blank)
    (fuel : Nat) (text : List Char) :
    readValue numberOf? fuel (blank ++ text) = readValue numberOf? fuel text := by
  rw [readValue.eq_def, readValue.eq_def numberOf? fuel text, skipSpace_append isBlank]

theorem IsBlank.indented (isBlank : IsBlank indent.toList) : IsBlank (indent ++ "  ").toList := by
  rw [String.toList_append]
  exact List.forall_mem_append.mpr
    ⟨isBlank, List.forall_mem_cons.mpr ⟨rfl, List.forall_mem_singleton.mpr rfl⟩⟩

theorem IsBlank.line (isBlank : IsBlank blank) : IsBlank ('\n' :: blank) :=
  List.forall_mem_cons.mpr ⟨rfl, isBlank⟩

/-! ## Lines between brackets -/

def linesText (indent : String) (closing : List Char) : List String → List Char
  | [] => '\n' :: closing
  | line :: rest => ',' :: '\n' :: (indent.toList ++ (line.toList ++ linesText indent closing rest))

theorem intercalate_lines (indent line : String) (lines : List String) (closing : List Char) :
    (String.intercalate ",\n" ((line :: lines).map (indent ++ ·))).toList ++ '\n' :: closing =
      indent.toList ++ (line.toList ++ linesText indent closing lines) := by
  induction lines generalizing line with
  | nil => simp [linesText]
  | cons next rest induction =>
      rw [List.map_cons, List.map_cons, String.intercalate_cons_cons, ← List.map_cons,
        String.toList_append, String.toList_append, List.append_assoc, List.append_assoc, induction]
      simp [linesText]

theorem block_nil (opening closing indent : String) :
    (block opening closing indent []).toList = opening.toList ++ closing.toList :=
  String.toList_append

theorem block_cons (opening closing indent line : String) (lines : List String) :
    (block opening closing indent (line :: lines)).toList =
      opening.toList ++ '\n' :: ((indent ++ "  ").toList ++ (line.toList ++
        linesText (indent ++ "  ") (indent.toList ++ closing.toList) lines)) := by
  rw [← intercalate_lines]
  simp [block]

theorem skipSpace_lines_nil (outer : IsBlank closing) (visible : ¬ isSpace character)
    (indent : String) (rest : List Char) :
    skipSpace (linesText indent (closing ++ [character]) [] ++ rest) = character :: rest := by
  rw [linesText, ← List.cons_append, List.append_assoc, skipSpace_append outer.line,
    List.singleton_append, skipSpace_cons visible]

theorem skipSpace_lines_cons (indent line : String) (lines : List String)
    (closing rest : List Char) :
    skipSpace (linesText indent closing (line :: lines) ++ rest) =
      ',' :: (('\n' :: indent.toList) ++
        (line.toList ++ (linesText indent closing lines ++ rest))) := by
  have comma : ¬ isSpace ',' := by decide
  simp only [linesText, List.cons_append, List.append_assoc]
  exact skipSpace_cons comma _

/-! ## Values -/

/-- What may come behind a value: the end, or the next line. -/
def EndsValue (rest : List Char) : Prop :=
  ∀ character ∈ rest.head?, character = ',' ∨ character = '\n'

theorem EndsValue.endsNumber (ends : EndsValue rest) : EndsNumber rest := by
  intro character first
  rcases ends character first with rfl | rfl <;> decide

theorem endsValue_lines (indent : String) (closing rest : List Char) (lines : List String) :
    EndsValue (linesText indent closing lines ++ rest) := by
  cases lines with
  | nil =>
      rintro character ⟨rfl⟩
      exact .inr rfl
  | cons line lines =>
      rintro character ⟨rfl⟩
      exact .inl rfl

def ReadBack (numberOf? : NumberParts → Option Content) (json : Json) : Prop :=
  ∀ ⦃indent : String⦄ ⦃fuel : Nat⦄ ⦃rest : List Char⦄, IsBlank indent.toList → EndsValue rest →
    2 * (json.pretty indent).toList.length ≤ fuel →
    readValue numberOf? fuel ((json.pretty indent).toList ++ rest) = some (.ofJson json, rest)

theorem readItems_lines {items : List Json} (each : ∀ item ∈ items, item.ReadBack numberOf?)
    (inner : IsBlank indent.toList) (outer : IsBlank closing) {item : Json}
    (first : item.ReadBack numberOf?) {blank : List Char} (ahead : IsBlank blank) (read : List Content)
    (rest : List Char)
    (enough : 2 * ((item.pretty indent).toList ++
      linesText indent (closing ++ [']']) (prettyItems indent items)).length ≤ fuel) :
    readItems numberOf? fuel read (blank ++ ((item.pretty indent).toList ++
        (linesText indent (closing ++ [']']) (prettyItems indent items) ++ rest))) =
      some (.sequence (read.reverse ++ Content.itemsOfJson (item :: items)), rest) := by
  have bracket : ¬ isSpace ']' := by decide
  induction items generalizing item blank read fuel with
  | nil =>
      rw [List.length_append, prettyItems, linesText, List.length_cons] at enough
      rcases fuel with _ | fuel
      · omega
      rw [readItems, readValue_append _ ahead, first inner (endsValue_lines _ _ _ _) (by omega),
        Content.itemsOfJson, Content.itemsOfJson, prettyItems]
      simp [skipSpace_lines_nil outer bracket]
  | cons next items induction =>
      rw [List.forall_mem_cons] at each
      rw [List.length_append, prettyItems, linesText, List.length_cons, List.length_cons,
        List.length_append] at enough
      rcases fuel with _ | fuel
      · omega
      have left : 2 * ((next.pretty indent).toList ++
          linesText indent (closing ++ [']']) (prettyItems indent items)).length ≤ fuel := by
        omega
      rw [readItems, readValue_append _ ahead, first inner (endsValue_lines _ _ _ _) (by omega),
        Content.itemsOfJson, prettyItems]
      simp only [Option.bind_eq_bind, Option.bind_some, skipSpace_lines_cons]
      rw [induction each.2 each.1 inner.line (.ofJson item :: read) left, List.reverse_cons,
        List.append_assoc, List.singleton_append]

theorem readMember (inner : IsBlank indent.toList) (ahead : IsBlank blank) (name : String)
    {value : Json} (readBack : value.ReadBack numberOf?) (ends : EndsValue rest)
    (enough : 2 * (value.pretty indent).toList.length ≤ fuel) :
    ∃ behind, readString (skipSpace (blank ++
        ((stringText name ++ ": " ++ value.pretty indent).toList ++ rest))) = some (name, behind) ∧
      ∃ left, skipSpace behind = ':' :: left ∧
        readValue numberOf? fuel left = some (.ofJson value, rest) := by
  have quote : ¬ isSpace '"' := by decide
  have colon : ¬ isSpace ':' := by decide
  have space : IsBlank [' '] := List.forall_mem_singleton.mpr rfl
  have named :
      skipSpace (blank ++ ((stringText name ++ ": " ++ value.pretty indent).toList ++ rest)) =
      (stringText name).toList ++ (':' :: ([' '] ++ ((value.pretty indent).toList ++ rest))) := by
    rw [skipSpace_append ahead, String.toList_append, String.toList_append, stringText_toList]
    simp [skipSpace_cons quote]
  refine ⟨_, by rw [named, readString_append], _, skipSpace_cons colon _, ?_⟩
  rw [readValue_append _ space, readBack inner ends enough]

theorem readMembers_lines {members : List (String × Json)}
    (each : ∀ member ∈ members, member.2.ReadBack numberOf?) (inner : IsBlank indent.toList)
    (outer : IsBlank closing) {name : String} {value : Json} (first : value.ReadBack numberOf?)
    {blank : List Char} (ahead : IsBlank blank) (read : List (ContentKey × Content))
    (rest : List Char)
    (enough : 2 * ((stringText name ++ ": " ++ value.pretty indent).toList ++
      linesText indent (closing ++ ['\x7d']) (prettyMembers indent members)).length ≤ fuel) :
    readMembers numberOf? fuel read
        (blank ++ ((stringText name ++ ": " ++ value.pretty indent).toList ++
          (linesText indent (closing ++ ['\x7d']) (prettyMembers indent members) ++ rest))) =
      some (.mapping (read.reverse ++ Content.entriesOfJson ((name, value) :: members)), rest) := by
  have brace : ¬ isSpace '\x7d' := by decide
  induction members generalizing name value blank read fuel with
  | nil =>
      rw [List.length_append, String.toList_append, List.length_append, prettyMembers, linesText,
        List.length_cons] at enough
      rcases fuel with _ | fuel
      · omega
      rcases readMember inner ahead name first (endsValue_lines indent (closing ++ ['\x7d']) rest [])
        (show 2 * (value.pretty indent).toList.length ≤ fuel by omega) with
        ⟨behind, named, left, colon, valued⟩
      rw [readMembers, Content.entriesOfJson, Content.entriesOfJson, prettyMembers]
      simp only [named, Option.bind_eq_bind, Option.bind_some, colon, valued]
      simp [skipSpace_lines_nil outer brace]
  | cons next members induction =>
      rcases next with ⟨nextName, next⟩
      rw [List.forall_mem_cons] at each
      rw [List.length_append, String.toList_append, List.length_append, prettyMembers, linesText,
        List.length_cons, List.length_cons, List.length_append] at enough
      rcases fuel with _ | fuel
      · omega
      have spared : 2 * ((stringText nextName ++ ": " ++ next.pretty indent).toList ++
          linesText indent (closing ++ ['\x7d']) (prettyMembers indent members)).length ≤ fuel := by
        omega
      rcases readMember inner ahead name first (endsValue_lines indent (closing ++ ['\x7d']) rest
          (prettyMembers indent ((nextName, next) :: members)))
        (show 2 * (value.pretty indent).toList.length ≤ fuel by omega) with
        ⟨behind, named, left, colon, valued⟩
      rw [readMembers, Content.entriesOfJson]
      simp only [named, Option.bind_eq_bind, Option.bind_some, colon, valued]
      simp only [prettyMembers, skipSpace_lines_cons]
      rw [induction each.2 each.1 inner.line ((.name name, .ofJson value) :: read) spared,
        List.reverse_cons, List.append_assoc, List.singleton_append]

/-! ## Numbers -/

theorem not_special_of_numeric (numeric : character = '-' ∨ character.isDigit) :
    ¬ isSpace character ∧
      character ∉ ['"', '[', '\x7b', ']', '\x7d', 'n', 't', 'f'] := by
  have excluded (special : Char) (other : ¬ (special = '-' ∨ special.isDigit)) :
      character ≠ special := by
    rintro rfl
    exact other numeric
  simp only [List.mem_cons, List.not_mem_nil, or_false, not_or, isSpace, Bool.or_eq_true,
    decide_eq_true_eq]
  refine ⟨⟨⟨⟨?_, ?_⟩, ?_⟩, ?_⟩, ?_, ?_, ?_, ?_, ?_, ?_, ?_, ?_⟩ <;> exact excluded _ (by decide)

theorem readValue_number (numberOf? : NumberParts → Option Content)
    (numeric : character = '-' ∨ character.isDigit) (fuel : Nat) (rest : List Char) :
    readValue numberOf? (fuel + 1) (character :: rest) =
      readNumber numberOf? (character :: rest) := by
  rcases not_special_of_numeric numeric with ⟨visible, others⟩
  simp only [List.mem_cons, List.not_mem_nil, or_false, not_or] at others
  have noWord : readWord? (character :: rest) = none := by
    rw [readWord?.eq_def]
    split <;> simp_all
  rw [readValue.eq_def, skipSpace_cons visible]
  simp [others, noWord]

/-! ## Whole texts -/

theorem exists_block_eq (opening closing indent : String) (lines : List String) :
    ∃ rest, (block opening closing indent lines).toList = opening.toList ++ rest := by
  cases lines with
  | nil => exact ⟨_, block_nil opening closing indent⟩
  | cons line lines => exact ⟨_, block_cons opening closing indent line lines⟩

theorem visible_pretty (indent : String) (json : Json) :
    ∃ character rest, (json.pretty indent).toList = character :: rest ∧ ¬ isSpace character ∧
      character ≠ ']' := by
  cases json with
  | null => exact ⟨'n', ['u', 'l', 'l'], by rw [pretty]; rfl, by decide, by decide⟩
  | bool value =>
      cases value with
      | true => exact ⟨'t', ['r', 'u', 'e'], by rw [pretty]; rfl, by decide, by decide⟩
      | false => exact ⟨'f', ['a', 'l', 's', 'e'], by rw [pretty]; rfl, by decide, by decide⟩
  | number value =>
      rcases nearest?_finds value with ⟨spelling, proper, text, _⟩
      rcases proper.begins with ⟨first, rest, begins, numeric⟩
      rcases not_special_of_numeric numeric with ⟨visible, others⟩
      refine ⟨first, rest, ?_, visible, ?_⟩
      · rw [pretty, text, begins]
      · rintro rfl
        exact others (by decide)
  | string value => exact ⟨'"', _, by rw [pretty, stringText_toList], by decide, by decide⟩
  | array items =>
      rcases exists_block_eq "[" "]" indent (prettyItems (indent ++ "  ") items) with ⟨rest, text⟩
      exact ⟨'[', rest, by rw [pretty, text]; rfl, by decide, by decide⟩
  | object members =>
      rcases exists_block_eq "\x7b" "\x7d" indent (prettyMembers (indent ++ "  ") members) with
        ⟨rest, text⟩
      exact ⟨'\x7b', rest, by rw [pretty, text]; rfl, by decide, by decide⟩

theorem exists_fuel {json : Json} (enough : 2 * (json.pretty indent).toList.length ≤ fuel) :
    ∃ less, fuel = less + 1 := by
  rcases visible_pretty indent json with ⟨first, others, begins, _⟩
  rw [begins, List.length_cons] at enough
  exact Nat.exists_eq_add_one.mpr (by omega)

theorem readValue_items (numberOf? : NumberParts → Option Content) (isBlank : IsBlank blank)
    (begins : ∃ character rest, text = character :: rest ∧ ¬ isSpace character ∧ character ≠ ']') :
    readValue numberOf? (fuel + 1) ('[' :: (blank ++ text)) =
      readItems numberOf? fuel [] text := by
  have bracket : ¬ isSpace '[' := by decide
  rcases begins with ⟨character, rest, rfl, visible, unclosed⟩
  rw [readValue.eq_def, skipSpace_cons bracket]
  simp [skipSpace_append isBlank, skipSpace_cons visible, unclosed]

theorem readValue_members (numberOf? : NumberParts → Option Content) (isBlank : IsBlank blank)
    (begins : ∃ rest, text = '"' :: rest) :
    readValue numberOf? (fuel + 1) ('\x7b' :: (blank ++ text)) =
      readMembers numberOf? fuel [] text := by
  have brace : ¬ isSpace '\x7b' := by decide
  have quote : ¬ isSpace '"' := by decide
  rcases begins with ⟨rest, rfl⟩
  rw [readValue.eq_def, skipSpace_cons brace]
  simp [skipSpace_append isBlank, skipSpace_cons quote]

theorem readBack_array {items : List Json} (each : ∀ item ∈ items, item.ReadBack numberOf?) :
    (array items).ReadBack numberOf? := by
  intro indent fuel rest outer _ enough
  rcases exists_fuel enough with ⟨fuel, rfl⟩
  cases items with
  | nil =>
      rw [pretty, prettyItems, block_nil]
      rfl
  | cons item items =>
      rw [List.forall_mem_cons] at each
      have inner : IsBlank (indent ++ "  ").toList := outer.indented
      have opening : "[".toList = ['['] := rfl
      have closing : "]".toList = [']'] := rfl
      rw [pretty, prettyItems, block_cons, opening, closing] at enough ⊢
      generalize indent ++ "  " = indent' at inner enough ⊢
      simp only [List.length_append, List.length_cons] at enough
      have left : 2 * ((item.pretty indent').toList ++
          linesText indent' (indent.toList ++ [']']) (prettyItems indent' items)).length ≤ fuel := by
        rw [List.length_append]
        omega
      have lines := readItems_lines each.2 inner outer each.1 (List.forall_mem_nil _) [] rest left
      have begins : ∃ character others, (item.pretty indent').toList ++
          (linesText indent' (indent.toList ++ [']']) (prettyItems indent' items) ++ rest) =
            character :: others ∧ ¬ isSpace character ∧ character ≠ ']' := by
        rcases visible_pretty indent' item with ⟨first, others, begins, apart⟩
        exact ⟨first, _, by rw [begins, List.cons_append], apart⟩
      have opened := (readValue_items _ inner.line begins).trans lines
      rw [Content.ofJson]
      simpa only [List.append_assoc, List.cons_append, List.nil_append, List.reverse_nil] using
        opened

theorem member_begins (name text : String) :
    ∃ rest, (stringText name ++ ": " ++ text).toList = '"' :: rest := by
  rw [String.toList_append, String.toList_append, stringText_toList]
  exact ⟨_, rfl⟩

theorem readBack_object {members : List (String × Json)}
    (each : ∀ member ∈ members, member.2.ReadBack numberOf?) : (object members).ReadBack numberOf? := by
  intro indent fuel rest outer _ enough
  rcases exists_fuel enough with ⟨fuel, rfl⟩
  cases members with
  | nil =>
      rw [pretty, prettyMembers, block_nil]
      rfl
  | cons member members =>
      rcases member with ⟨name, value⟩
      rw [List.forall_mem_cons] at each
      have inner : IsBlank (indent ++ "  ").toList := outer.indented
      have opening : "\x7b".toList = ['\x7b'] := rfl
      have closing : "\x7d".toList = ['\x7d'] := rfl
      rw [pretty, prettyMembers, block_cons, opening, closing] at enough ⊢
      generalize indent ++ "  " = indent' at inner enough ⊢
      generalize line : stringText name ++ ": " ++ value.pretty indent' = text at enough ⊢
      simp only [List.length_append, List.length_cons] at enough
      have left : 2 * (text.toList ++
          linesText indent' (indent.toList ++ ['\x7d']) (prettyMembers indent' members)).length ≤
            fuel := by
        rw [List.length_append]
        omega
      subst line
      have lines := readMembers_lines each.2 inner outer each.1 (List.forall_mem_nil _) [] rest left
      have begins : ∃ others, (stringText name ++ ": " ++ value.pretty indent').toList ++
          (linesText indent' (indent.toList ++ ['\x7d']) (prettyMembers indent' members) ++ rest) =
            '"' :: others := by
        rcases member_begins name (value.pretty indent') with ⟨others, begins⟩
        exact ⟨_, by rw [begins, List.cons_append]⟩
      have opened := (readValue_members _ inner.line begins).trans lines
      rw [Content.ofJson]
      simpa only [List.append_assoc, List.cons_append, List.nil_append, List.reverse_nil] using
        opened

theorem readBack {json : Json} (found : json.EveryNumber (Finds numberOf?)) :
    json.ReadBack numberOf? := by
  induction found with
  | null =>
      intro indent fuel rest _ _ enough
      rcases exists_fuel enough with ⟨fuel, rfl⟩
      rw [pretty]
      rfl
  | bool value =>
      intro indent fuel rest _ _ enough
      rcases exists_fuel enough with ⟨fuel, rfl⟩
      rw [pretty]
      cases value <;> rfl
  | number value finds =>
      intro indent fuel rest _ ends enough
      rcases exists_fuel enough with ⟨fuel, rfl⟩
      rcases finds with ⟨spelling, proper, spelled, read⟩
      rcases proper.begins with ⟨first, others, begins, numeric⟩
      have direct : readValue numberOf? (fuel + 1) (spelling.text ++ rest) =
          readNumber numberOf? (spelling.text ++ rest) := by
        rw [begins, List.cons_append]
        exact readValue_number _ numeric fuel _
      rw [pretty, spelled, direct, readNumber_append _ proper ends.endsNumber, read,
        Option.map_some]
  | string value =>
      intro indent fuel rest _ _ enough
      rcases exists_fuel enough with ⟨fuel, rfl⟩
      have quote : ¬ isSpace '"' := by decide
      have read := readString_append value rest
      rw [stringText_toList, List.cons_append] at read
      rw [pretty, stringText_toList, List.cons_append, readValue.eq_def, skipSpace_cons quote]
      simp only [read, Option.map_some, Content.ofJson]
  | array _ each => exact readBack_array each
  | object _ each => exact readBack_object each

theorem parseWith?_pretty {json : Json} (found : json.EveryNumber (Finds numberOf?)) :
    parseWith? numberOf? (json.pretty "" ++ "\n") = some (.ofJson json) := by
  have blank : IsBlank "".toList := List.forall_mem_nil _
  have ends : EndsValue ['\n'] := by
    rintro character ⟨rfl⟩
    exact .inr rfl
  have newline : skipSpace ['\n'] = [] := rfl
  have enough : 2 * (json.pretty "").toList.length ≤
      2 * ((json.pretty "").toList ++ ['\n']).length + 1 := by
    rw [List.length_append]
    omega
  have text : (json.pretty "" ++ "\n").toList = (json.pretty "").toList ++ ['\n'] :=
    String.toList_append
  rw [parseWith?, text, readBack found blank ends enough]
  simp [newline]

theorem everyNumber_of_forall {holds : JsonNumber → Prop} (every : ∀ number, holds number)
    (json : Json) : json.EveryNumber holds := by
  cases json with
  | null => exact .null
  | bool value => exact .bool value
  | number value => exact .number value (every value)
  | string text => exact .string text
  | array items => exact .array fun item held => everyNumber_of_forall every item
  | object members => exact .object fun member held => everyNumber_of_forall every member.2
termination_by sizeOf json
decreasing_by
  · have smaller := List.sizeOf_lt_of_mem held
    simp only [array.sizeOf_spec]
    omega
  · have smaller := List.sizeOf_lt_of_mem held
    rcases member with ⟨name, value⟩
    simp only [object.sizeOf_spec, Prod.mk.sizeOf_spec] at smaller ⊢
    omega

/-- The text of a value is read back as the value. -/
theorem parseExactly?_pretty (json : Json) :
    parseExactly? (json.pretty "" ++ "\n") = some (.ofJson json) :=
  parseWith?_pretty (everyNumber_of_forall nearest?_finds json)

/-- Doubles apart, nothing in a text has to be read exactly. -/
theorem parse?_pretty {json : Json}
    (whole : json.EveryNumber fun number => ∃ integer, number = .integer integer) :
    parse? (json.pretty "" ++ "\n") = some (.ofJson json) := by
  refine parseWith?_pretty (whole.imp ?_)
  rintro number ⟨integer, rfl⟩
  exact content?_finds_integer integer

end CrdCompiler.Json
