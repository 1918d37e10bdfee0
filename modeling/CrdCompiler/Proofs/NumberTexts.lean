import CrdCompiler.Json.Reader
import CrdCompiler.Proofs.ShortestDecimals
import Mathlib.Data.List.TakeWhile

/-! # Texts of numbers

A number that was written is read up to its last character, whatever comes behind that cannot go on
with a number; and what the text says is the number itself.
-/

namespace CrdCompiler.Json

open Decimal

/-! ## What a text says -/

namespace NumberParts

def decimal (parts : NumberParts) : Decimal :=
  let fraction := parts.fraction.getD []
  ⟨parts.negative, digitsValue (parts.whole ++ fraction), parts.exponent.getD 0 - fraction.length⟩

/-- An integer of 64 bits, or else the double nearest the decimal. A point or an exponent makes a
double of any number. -/
def nearest? (parts : NumberParts) : Option Content :=
  let whole : Int := digitsValue parts.whole
  let number := if parts.negative then -whole else whole
  match parts.fraction, parts.exponent, Integer64.ofInt? number with
  | none, none, some number => some (.integer number)
  | _, _, _ => some (.float parts.decimal.toBinary64)

end NumberParts

/-! ## Spellings -/

/-- How a number is spelled. The exponent is negative or not. -/
structure Spelling where
  negative : Bool
  whole : List Char
  fraction : Option (List Char) := none
  exponent : Option (Bool × List Char) := none

def IsDigits (digits : List Char) : Prop :=
  digits ≠ [] ∧ ∀ digit ∈ digits, digit.isDigit

namespace Spelling

def fractionText (fraction : Option (List Char)) : List Char :=
  fraction.elim [] ('.' :: ·)

def exponentText (exponent : Option (Bool × List Char)) : List Char :=
  exponent.elim [] fun (down, digits) => 'e' :: (if down then '-' else '+') :: digits

def text (spelling : Spelling) : List Char :=
  (if spelling.negative then ['-'] else []) ++ (spelling.whole ++
    (fractionText spelling.fraction ++ exponentText spelling.exponent))

/-- Digits stand where they have to, and no zero before other digits. -/
structure IsProper (spelling : Spelling) : Prop where
  whole : IsDigits spelling.whole
  led : spelling.whole.length = 1 ∨ spelling.whole.head? ≠ some '0'
  fraction : ∀ digits ∈ spelling.fraction, IsDigits digits
  exponent : ∀ power ∈ spelling.exponent, IsDigits power.2

def parts (spelling : Spelling) : NumberParts where
  negative := spelling.negative
  whole := spelling.whole
  fraction := spelling.fraction
  exponent := spelling.exponent.map fun (down, digits) =>
    if down then -(digitsValue digits : Int) else digitsValue digits

end Spelling

/-! ## Reading what is spelled -/

variable {digits rest : List Char} {spelling : Spelling}

def EndsNumber (rest : List Char) : Prop :=
  ∀ character ∈ rest.head?, ¬ character.isDigit ∧ character ≠ '.' ∧ character ≠ 'e' ∧ character ≠ 'E'

theorem readDigits?_append (written : IsDigits digits)
    (stops : ∀ character ∈ rest.head?, ¬ character.isDigit) :
    readDigits? (digits ++ rest) = some (digits, rest) := by
  have behind : rest.takeWhile Char.isDigit = [] ∧ rest.dropWhile Char.isDigit = rest := by
    cases rest with
    | nil => exact ⟨rfl, rfl⟩
    | cons character rest =>
        have stop := stops character rfl
        exact ⟨List.takeWhile_cons_of_neg stop, List.dropWhile_cons_of_neg stop⟩
  rw [readDigits?, List.takeWhile_append_of_pos written.2, List.dropWhile_append_of_pos written.2,
    behind.1, behind.2, List.append_nil]
  simp [written.1]

theorem readExponent?_append {exponent : Option (Bool × List Char)}
    (written : ∀ power ∈ exponent, IsDigits power.2) (ends : EndsNumber rest) :
    readExponent? (Spelling.exponentText exponent ++ rest) =
      some (exponent.map fun (down, digits) =>
        if down then -(digitsValue digits : Int) else digitsValue digits, rest) := by
  cases exponent with
  | none =>
      cases rest with
      | nil => rfl
      | cons character rest =>
          rcases ends character rfl with ⟨_, _, small, capital⟩
          change readExponent? (character :: rest) = _
          rw [readExponent?, if_neg (not_or.mpr ⟨small, capital⟩)]
          rfl
  | some power =>
      rcases power with ⟨down, digits⟩
      have digitsRead := readDigits?_append (written _ rfl) fun character held =>
        (ends character held).1
      cases down <;> simp [Spelling.exponentText, readExponent?, readSign, digitsRead]

theorem stops_exponentText (exponent : Option (Bool × List Char)) (ends : EndsNumber rest) :
    ∀ character ∈ (Spelling.exponentText exponent ++ rest).head?, ¬ character.isDigit := by
  cases exponent with
  | none => exact fun character held => (ends character held).1
  | some power =>
      intro character held
      cases held
      decide

theorem readFraction?_append {fraction : Option (List Char)} {exponent : Option (Bool × List Char)}
    (written : ∀ digits ∈ fraction, IsDigits digits) (ends : EndsNumber rest) :
    readFraction? (Spelling.fractionText fraction ++ (Spelling.exponentText exponent ++ rest)) =
      some (fraction, Spelling.exponentText exponent ++ rest) := by
  cases fraction with
  | some digits =>
      have digitsRead := readDigits?_append (written _ rfl) (stops_exponentText exponent ends)
      simp [Spelling.fractionText, readFraction?, digitsRead]
  | none =>
      change readFraction? (Spelling.exponentText exponent ++ rest) = _
      rw [readFraction?.eq_def]
      split
      · rename_i text pointed
        cases exponent with
        | none => exact absurd rfl (ends '.' (by rw [show rest = _ from pointed]; rfl)).2.1
        | some power => cases pointed
      · rfl

theorem readWhole?_append (proper : spelling.IsProper) (ends : EndsNumber rest) :
    readWhole? (spelling.whole ++ (Spelling.fractionText spelling.fraction ++
        (Spelling.exponentText spelling.exponent ++ rest))) =
      some (spelling.whole, Spelling.fractionText spelling.fraction ++
        (Spelling.exponentText spelling.exponent ++ rest)) := by
  have stops : ∀ character ∈ (Spelling.fractionText spelling.fraction ++
      (Spelling.exponentText spelling.exponent ++ rest)).head?, ¬ character.isDigit := by
    cases spelling.fraction with
    | some digits =>
        intro character held
        cases held
        decide
    | none => exact stops_exponentText spelling.exponent ends
  rw [readWhole?, readDigits?_append proper.whole stops, Option.filter_some, if_pos]
  simpa using proper.led

theorem readMinus_append (written : IsDigits digits) (negative : Bool) (rest : List Char) :
    readMinus ((if negative then ['-'] else []) ++ (digits ++ rest)) =
      (negative, digits ++ rest) := by
  cases negative with
  | true => rfl
  | false =>
      cases digits with
      | nil => exact absurd rfl written.1
      | cons digit others =>
          have plain : digit ≠ '-' := by
            rintro rfl
            exact absurd (written.2 '-' List.mem_cons_self) (by decide)
          simp [readMinus, plain]

theorem readNumber_append (numberOf? : NumberParts → Option Content)
    (proper : spelling.IsProper) (ends : EndsNumber rest) :
    readNumber numberOf? (spelling.text ++ rest) = (numberOf? spelling.parts).map (·, rest) := by
  simp only [readNumber, readParts?, Spelling.text, List.append_assoc,
    readMinus_append proper.whole, readWhole?_append proper ends, Option.bind_eq_bind,
    Option.bind_some, readFraction?_append proper.fraction ends,
    readExponent?_append proper.exponent ends]
  exact Option.map_eq_bind.symm

theorem Spelling.IsProper.begins (proper : spelling.IsProper) :
    ∃ first rest, spelling.text = first :: rest ∧ (first = '-' ∨ first.isDigit) := by
  rcases List.exists_cons_of_ne_nil proper.whole.1 with ⟨digit, others, written⟩
  have decimal := proper.whole.2
  rw [written, List.forall_mem_cons] at decimal
  rw [Spelling.text, written]
  cases spelling.negative with
  | true => exact ⟨_, _, rfl, .inl rfl⟩
  | false => exact ⟨_, _, rfl, .inr decimal.1⟩

/-! ## Values of digits -/

theorem digitsValue_cons (digit : Char) (digits : List Char) :
    digitsValue (digit :: digits) =
      (digit.toNat - '0'.toNat) * 10 ^ digits.length + digitsValue digits := by
  have shifted (start : Nat) : digits.foldl (fun value digit =>
      value * 10 + (digit.toNat - '0'.toNat)) start =
        start * 10 ^ digits.length + digitsValue digits := by
    induction digits generalizing start with
    | nil => simp [digitsValue]
    | cons next rest induction =>
        have alone : digitsValue (next :: rest) = _ :=
          induction (0 * 10 + (next.toNat - '0'.toNat))
        rw [alone, List.foldl_cons, induction, List.length_cons, Nat.pow_succ]
        ring
  rw [digitsValue, List.foldl_cons, shifted, Nat.zero_mul, Nat.zero_add]

theorem digitsValue_append (left right : List Char) :
    digitsValue (left ++ right) = digitsValue left * 10 ^ right.length + digitsValue right := by
  induction left with
  | nil => simp [digitsValue]
  | cons digit rest induction =>
      rw [List.cons_append, digitsValue_cons, digitsValue_cons, induction, List.length_append,
        Nat.pow_add]
      ring

theorem digitsValue_zeros (count : Nat) : digitsValue (List.replicate count '0') = 0 := by
  induction count with
  | zero => rfl
  | succ count induction =>
      rw [List.replicate_succ, digitsValue_cons, induction, Nat.sub_self, Nat.zero_mul]

theorem isDigits_toDigits (number : Nat) : IsDigits (Nat.toDigits 10 number) :=
  ⟨Nat.toDigits_ne_nil, fun _ => Nat.isDigit_of_mem_toDigits (by decide) (by decide)⟩

theorem digitsValue_toDigits (number : Nat) : digitsValue (Nat.toDigits 10 number) = number := by
  have folded := Nat.ofDigitChars_toDigits (b := 10) (n := number) (by decide) (by decide)
  simpa only [digitsValue, Nat.ofDigitChars, Nat.mul_comm 10] using folded

theorem head?_toDigits {number : Nat} (nonzero : number ≠ 0) :
    (Nat.toDigits 10 number).head? ≠ some '0' := by
  induction number using Nat.strongRecOn with
  | ind number induction =>
      have single : ∀ number < 10, number ≠ 0 → number.digitChar ≠ '0' := by decide
      by_cases short : number < 10
      · rw [Nat.toDigits_of_lt_base short, List.head?_cons, Ne, Option.some_inj]
        exact single number short nonzero
      · rw [Nat.toDigits_of_base_le (by decide) (Nat.le_of_not_lt short),
          List.head?_append_of_ne_nil _ Nat.toDigits_ne_nil]
        exact induction _ (by omega) (by omega)

/-! ## Integers -/

namespace Spelling

def ofInt (value : Int) : Spelling where
  negative := value < 0
  whole := Nat.toDigits 10 value.natAbs

theorem isProper_ofInt (value : Int) : (ofInt value).IsProper := by
  refine ⟨isDigits_toDigits _, ?_, nofun, nofun⟩
  by_cases zero : value.natAbs = 0
  · exact .inl (by rw [ofInt, zero]; rfl)
  · exact .inr (head?_toDigits zero)

theorem text_ofInt (value : Int) : (ofInt value).text = (toString value).toList := by
  cases value with
  | ofNat number =>
      change _ = (toString number).toList
      rw [Nat.toString_eq_ofList_toDigits, String.toList_ofList]
      simp [text, ofInt, fractionText, exponentText]
  | negSucc number =>
      change _ = ("-" ++ toString (number + 1)).toList
      rw [Nat.toString_eq_ofList_toDigits, String.toList_append, String.toList_ofList]
      simp [text, ofInt, fractionText, exponentText]

end Spelling

/-- The reader of numbers finds the number in its text. -/
def Finds (numberOf? : NumberParts → Option Content) (number : JsonNumber) : Prop :=
  ∃ spelling : Spelling, spelling.IsProper ∧ number.text.toList = spelling.text ∧
    numberOf? spelling.parts = some (.ofJson (.number number))

theorem signed_natAbs (number : Int) :
    (if number < 0 then -(number.natAbs : Int) else number.natAbs) = number := by
  omega

theorem nearest?_finds_integer (number : Integer64) :
    Finds NumberParts.nearest? (.integer number) := by
  have kept : Integer64.ofInt? number.value = some number := dif_pos number.fits
  refine ⟨_, Spelling.isProper_ofInt _, (Spelling.text_ofInt _).symm, ?_⟩
  simp only [NumberParts.nearest?, Spelling.parts, Spelling.ofInt, digitsValue_toDigits,
    decide_eq_true_eq, signed_natAbs, kept, Option.map_none]
  rfl

namespace Significand

theorem le_foldl_extended (value : Nat) (digits : List Char) :
    value ≤ digits.foldl extended value := by
  induction digits generalizing value with
  | nil => exact Nat.le_refl value
  | cons digit rest induction =>
      have more : value ≤ extended value digit := by
        unfold extended
        omega
      exact more.trans (induction _)

theorem whole_eq {value : Nat} (dropped : Nat)
    (fits : digits.foldl extended value < 18446744073709551616) :
    (Significand.mk value dropped).whole digits = ⟨digits.foldl extended value, dropped⟩ := by
  induction digits generalizing value with
  | nil => rfl
  | cons digit rest induction =>
      have first : extended value digit < 18446744073709551616 :=
        (le_foldl_extended _ rest).trans_lt fits
      rw [whole, if_pos first]
      exact induction fits

end Significand

/-- No digit of an integer of 64 bits is dropped. -/
theorem content?_finds_integer (number : Integer64) :
    Finds NumberParts.content? (.integer number) := by
  have range := number.fits
  have folded : (Nat.toDigits 10 number.value.natAbs).foldl Significand.extended 0 =
      number.value.natAbs :=
    digitsValue_toDigits _
  have taken : (Significand.mk 0 0).whole (Nat.toDigits 10 number.value.natAbs) =
      ⟨number.value.natAbs, 0⟩ := by
    have fits : (Nat.toDigits 10 number.value.natAbs).foldl Significand.extended 0 <
        18446744073709551616 := by
      rw [folded]
      omega
    rw [Significand.whole_eq 0 fits, folded]
  have kept : Integer64.ofInt? number.value = some number := dif_pos range
  have whole : ¬ (number.value < 0 ∧
      (number.value.natAbs = 0 ∨ 9223372036854775808 < number.value.natAbs)) := by
    omega
  refine ⟨_, Spelling.isProper_ofInt _, (Spelling.text_ofInt _).symm, ?_⟩
  simp only [Spelling.ofInt, Spelling.parts, NumberParts.content?, taken, Option.map_none,
    Option.isSome_none, Bool.or_self, ne_eq, not_true_eq_false, decide_false,
    Bool.false_eq_true, if_false, decide_eq_true_eq, if_neg whole, signed_natAbs, kept]
  rfl

/-! ## Doubles -/

theorem toList_pushn (text : String) (character : Char) (count : Nat) :
    (text.pushn character count).toList = text.toList ++ List.replicate count character := by
  induction count with
  | zero => exact (List.append_nil _).symm
  | succ count induction =>
      rw [List.replicate_succ', ← List.append_assoc, ← induction, String.pushn, Nat.repeat]
      exact String.toList_push character

theorem toList_zeros (count : Nat) :
    (NumberLayout.zeros count).toList = List.replicate count '0' := by
  rw [NumberLayout.zeros, toList_pushn]
  rfl

theorem isDigits_zeros_append (written : IsDigits digits) (count : Nat) :
    IsDigits (List.replicate count '0' ++ digits) ∧
      IsDigits (digits ++ List.replicate count '0') := by
  have zeros : ∀ digit ∈ List.replicate count '0', digit.isDigit := by
    intro digit zero
    rw [List.eq_of_mem_replicate zero]
    rfl
  exact ⟨⟨List.append_ne_nil_of_right_ne_nil _ written.1,
      List.forall_mem_append.mpr ⟨zeros, written.2⟩⟩,
    ⟨List.append_ne_nil_of_left_ne_nil written.1 _,
      List.forall_mem_append.mpr ⟨written.2, zeros⟩⟩⟩

theorem IsDigits.take (written : IsDigits digits) {count : Nat} (some : 0 < count) :
    IsDigits (digits.take count) := by
  refine ⟨?_, fun digit taken => written.2 digit (List.mem_of_mem_take taken)⟩
  simp [written.1, Nat.ne_of_gt some]

theorem IsDigits.drop (written : IsDigits digits) {count : Nat} (short : count < digits.length) :
    IsDigits (digits.drop count) :=
  ⟨by simpa using short, fun digit left => written.2 digit (List.mem_of_mem_drop left)⟩

/-- The text is that of a number without a sign, with a point or an exponent. -/
structure Spelling.Spells (spelling : Spelling) (text : String) (number : ℚ) : Prop where
  proper : spelling.IsProper
  text : text.toList = spelling.text
  unsigned : spelling.negative = false
  marked : spelling.fraction ≠ none ∨ spelling.exponent ≠ none
  number : spelling.parts.decimal.digits * (10 : ℚ) ^ spelling.parts.decimal.power = number

theorem spells_of_point {text : String} {whole fraction : List Char} {number : ℚ}
    (before : IsDigits whole) (led : whole.length = 1 ∨ whole.head? ≠ some '0')
    (behind : IsDigits fraction) (same : text.toList = whole ++ '.' :: fraction)
    (told : digitsValue (whole ++ fraction) * (10 : ℚ) ^ (-(fraction.length : Int)) = number) :
    (Spelling.mk false whole (some fraction) none).Spells text number where
  proper := by
    refine ⟨before, led, ?_, nofun⟩
    rintro digits ⟨rfl⟩
    exact behind
  text := by simp [same, Spelling.text, Spelling.fractionText, Spelling.exponentText]
  unsigned := rfl
  marked := .inl nofun
  number := by simpa [Spelling.parts, NumberParts.decimal] using told

theorem positionalText_spells {number : Nat} {place : Int} (led : number ≠ 0 ∨ place ≤ 1) :
    ∃ spelling : Spelling,
      spelling.Spells (NumberLayout.json.positionalText (Nat.toDigits 10 number) place)
        (number * 10 ^ (place - (Nat.toDigits 10 number).length)) := by
  have written := isDigits_toDigits number
  have value := digitsValue_toDigits number
  have ahead : number ≠ 0 → (Nat.toDigits 10 number).head? ≠ some '0' := head?_toDigits
  have single : number = 0 → (Nat.toDigits 10 number).length = 1 := by
    rintro rfl
    rfl
  generalize Nat.toDigits 10 number = digits at *
  have zero : IsDigits ['0'] := ⟨List.cons_ne_nil _ _, List.forall_mem_singleton.mpr rfl⟩
  have zeroValue : digitsValue ['0'] = 0 := rfl
  rw [NumberLayout.positionalText]
  split
  · rename_i small
    refine ⟨_, spells_of_point zero (.inl rfl) (isDigits_zeros_append written (-place).toNat).1
      (by simp [toList_zeros]) ?_⟩
    have exponent : -((List.replicate (-place).toNat '0' ++ digits).length : Int) =
        place - digits.length := by
      rw [List.length_append, List.length_replicate]
      omega
    rw [exponent, digitsValue_append, digitsValue_append, digitsValue_zeros, zeroValue, value]
    simp
  · rename_i positive
    extract_lets before
    split
    · rename_i short
      refine ⟨_, spells_of_point (isDigits_zeros_append written (before - digits.length)).2 ?_ zero
        (by simp [toList_zeros, NumberLayout.json]) ?_⟩
      · by_cases nothing : number = 0
        · left
          have length := single nothing
          rw [List.length_append, List.length_replicate]
          omega
        · right
          rw [List.head?_append_of_ne_nil _ written.1]
          exact ahead nothing
      · have exponent : place - digits.length = ((before - digits.length : Nat) : Int) := by
          omega
        rw [exponent, zpow_natCast, digitsValue_append, digitsValue_append, digitsValue_zeros,
          zeroValue, value]
        simp
    · rename_i long
      have nonzero : number ≠ 0 := by
        intro nothing
        have length := single nothing
        omega
      refine ⟨_, spells_of_point (written.take (show 0 < before by omega)) (.inr ?_)
        (written.drop (Nat.lt_of_not_le long)) (by simp) ?_⟩
      · rw [List.head?_take, if_neg (show before ≠ 0 by omega)]
        exact ahead nonzero
      · have exponent : -((digits.drop before).length : Int) = place - digits.length := by
          rw [List.length_drop]
          omega
        rw [exponent, List.take_append_drop, value]

theorem exponentText_spells (number : Nat) (place : Int) :
    ∃ spelling : Spelling,
      spelling.Spells (NumberLayout.exponentText (Nat.toDigits 10 number) place)
        (number * 10 ^ (place - (Nat.toDigits 10 number).length)) := by
  have written := isDigits_toDigits number
  have value := digitsValue_toDigits number
  generalize Nat.toDigits 10 number = digits at *
  have inhabited : 0 < digits.length := List.length_pos_iff.mpr written.1
  refine ⟨⟨false, digits.take 1, if digits.length ≤ 1 then none else some (digits.drop 1),
    some (!decide (1 ≤ place), Nat.toDigits 10 (place - 1).natAbs)⟩, ?_, ?_, rfl, .inr nofun, ?_⟩
  · refine ⟨written.take Nat.one_pos, .inl ?_, ?_, ?_⟩
    · rw [List.length_take]
      omega
    · intro fraction held
      split at held
      · cases held
      · rename_i long
        cases held
        exact written.drop (Nat.lt_of_not_le long)
    · rintro power ⟨rfl⟩
      exact isDigits_toDigits _
  · rw [NumberLayout.exponentText, Nat.toString_eq_ofList_toDigits]
    by_cases short : digits.length ≤ 1 <;> by_cases up : 1 ≤ place <;>
      simp [Spelling.text, Spelling.fractionText, Spelling.exponentText, short, up]
  · have shown : digits.take 1 ++
        (if digits.length ≤ 1 then none else some (digits.drop 1) : Option (List Char)).getD [] =
          digits := by
      split
      · rename_i short
        rw [Option.getD_none, List.append_nil, List.take_of_length_le short]
      · exact List.take_append_drop 1 digits
    have behind : ((if digits.length ≤ 1 then none
        else some (digits.drop 1) : Option (List Char)).getD []).length = digits.length - 1 := by
      split
      · rename_i short
        exact (Nat.sub_eq_zero_of_le short).symm
      · exact List.length_drop
    have exponent : (if (!decide (1 ≤ place)) = true then -((place - 1).natAbs : Int)
        else (place - 1).natAbs) = place - 1 := by
      by_cases up : 1 ≤ place
      · rw [if_neg (by simp [up])]
        omega
      · rw [if_pos (by simp [up])]
        omega
    have power : place - 1 - ((digits.length - 1 : Nat) : Int) = place - digits.length := by
      omega
    simp only [Spelling.parts, NumberParts.decimal, Option.map_some, Option.getD_some, shown,
      behind, digitsValue_toDigits, exponent, power, value]

theorem NumberParts.nearest?_of_marked {parts : NumberParts}
    (marked : parts.fraction ≠ none ∨ parts.exponent ≠ none) :
    parts.nearest? = some (.float parts.decimal.toBinary64) := by
  rcases parts with ⟨negative, whole, _ | fraction, _ | exponent⟩
  · simp at marked
  all_goals rfl

theorem Spelling.Spells.signed {text : String} {value : FiniteBinary64} {tie : DecimalTie}
    (spells : spelling.Spells text
      ((value.shortest tie).digits * 10 ^ (value.shortest tie).power)) :
    ∃ signed : Spelling, signed.IsProper ∧
      ((if value.negative then "-" else "") ++ text).toList = signed.text ∧
      signed.parts.nearest? = some (.float (.finite value)) := by
  let signed : Spelling := { spelling with negative := value.negative }
  have read : signed.parts.decimal.toBinary64 = .finite value :=
    Decimal.toBinary64_of_shortest value tie rfl spells.number
  refine ⟨signed, ⟨spells.proper.whole, spells.proper.led, spells.proper.fraction,
    spells.proper.exponent⟩, ?_, ?_⟩
  · rw [String.toList_append, spells.text]
    cases negative : value.negative <;> simp [signed, Spelling.text, spells.unsigned, negative]
  · rw [NumberParts.nearest?_of_marked (by simpa [Spelling.parts] using spells.marked), read]

/-- Every double is written as a decimal that is read as the double. -/
theorem nearest?_finds_float (value : FiniteBinary64) :
    Finds NumberParts.nearest? (.float value) := by
  have spelled (place : Int) (positional : Bool)
      (led : (value.shortest .even).digits ≠ 0 ∨ place ≤ 1) :
      ∃ spelling : Spelling, spelling.Spells
        (if positional then
          NumberLayout.json.positionalText (Nat.toDigits 10 (value.shortest .even).digits) place
        else NumberLayout.exponentText (Nat.toDigits 10 (value.shortest .even).digits) place)
        ((value.shortest .even).digits *
          10 ^ (place - (Nat.toDigits 10 (value.shortest .even).digits).length)) := by
    cases positional with
    | true => exact positionalText_spells led
    | false => exact exponentText_spells _ place
  have led : (value.shortest .even).digits ≠ 0 ∨
      (Nat.toDigits 10 (value.shortest .even).digits).length + (value.shortest .even).power ≤ 1 := by
    by_cases zero : value.mantissa = 0
    · right
      rw [(FiniteBinary64.shortest_zero .even zero).1]
      change ((Nat.toDigits 10 0).length : Int) + 0 ≤ 1
      decide
    · exact .inl (FiniteBinary64.shortest_digits_ne_zero .even zero)
  unfold Finds JsonNumber.text NumberLayout.finiteText
  rcases spelled _ _ led with ⟨spelling, spells⟩
  rw [add_sub_cancel_left] at spells
  exact spells.signed

theorem nearest?_finds (number : JsonNumber) : Finds NumberParts.nearest? number := by
  cases number with
  | integer whole => exact nearest?_finds_integer whole
  | float value => exact nearest?_finds_float value

end CrdCompiler.Json
