import CrdCompiler.Proofs.Decoding

/-! # Conversion of bounds

The bound of an integer property is tested as a double and then converted to a signed word. The
tests let through exactly those doubles that are words, so the conversion, which would take any
number to the word nearest to it, keeps each of them as it is.
-/

namespace CrdCompiler.Metadata

/-- The value is a finite number, an integer, and in the range of signed 64-bit words. -/
def IsWord (value : Binary64) : Prop :=
  ∃ number, value = .finite number ∧ (∃ whole : Int, number.toRat = whole) ∧
    -2 ^ 63 ≤ number.toRat ∧ number.toRat < 2 ^ 63

theorem isWord_iff {value : Binary64} :
    IsWord value ↔ ∃ (number : FiniteBinary64) (whole : Int), value = .finite number ∧
      number.toRat = whole ∧ -9223372036854775808 ≤ whole ∧ whole < 9223372036854775808 := by
  constructor
  · intro holds
    rcases holds with ⟨number, finite, ⟨whole, exact⟩, least, greatest⟩
    rw [exact] at least greatest
    exact ⟨number, whole, finite, exact, by exact_mod_cast least, by exact_mod_cast greatest⟩
  · intro holds
    rcases holds with ⟨number, whole, finite, exact, least, greatest⟩
    refine ⟨number, finite, ⟨whole, exact⟩, ?_⟩
    rw [exact]
    exact ⟨by exact_mod_cast least, by exact_mod_cast greatest⟩

theorem bound_eq_word_iff {value : Binary64} {path : SchemaPath} {side : BoundSide} {word : Int64} :
    bound value .int64 path side = .ok (.int64 word) ↔
      ∃ number, value = .finite number ∧ number.toRat = word.toInt := by
  rw [bound_int64_eq_ok]
  constructor
  · intro holds
    rcases holds with ⟨number, whole, finite, exact, range, same⟩
    cases same
    rw [Int64.toInt_ofInt_of_le range.1 range.2]
    exact ⟨number, finite, exact⟩
  · intro holds
    rcases holds with ⟨number, finite, exact⟩
    exact ⟨number, word.toInt, finite, exact, ⟨word.le_toInt, word.toInt_lt⟩,
      by rw [Int64.ofInt_toInt]⟩

theorem bound_succeeds_of_isWord {value : Binary64} (isWord : IsWord value) (path : SchemaPath)
    (side : BoundSide) : ∃ word, bound value .int64 path side = .ok (.int64 word) := by
  rcases isWord_iff.mp isWord with ⟨number, whole, finite, exact, range⟩
  exact ⟨_, bound_int64_eq_ok.mpr ⟨number, whole, finite, exact, range, rfl⟩⟩

def wordFault (value : Binary64) (side : BoundSide) : ValueFault :=
  if value.finite?.isSome then .notInt64 side value else .notFinite side value

theorem bound_fails_of_not_isWord {value : Binary64} (noWord : ¬ IsWord value) (path : SchemaPath)
    (side : BoundSide) :
    bound value .int64 path side = .error (.value path (wordFault value side)) := by
  cases value with
  | nan => rfl
  | infinite negative => rfl
  | finite number =>
      rw [bound_int64_finite]
      cases found : number.toInt?.bind int64OfInt? with
      | none => rfl
      | some word =>
          rcases Option.bind_eq_some_iff.mp found with ⟨whole, exact, fits⟩
          exact absurd (isWord_iff.mpr ⟨number, whole, rfl,
            FiniteBinary64.toInt?_eq_some_iff.mp exact, (int64OfInt?_eq_some_iff.mp fits).1⟩) noWord

/-- An integer bound is the word that the double is equal to, and where there is none, it is refused
at its path; a number bound is the double itself unless that is not finite. -/
theorem bounds_converted_exactly (value : Binary64) (path : SchemaPath) (side : BoundSide) :
    ((∃ word, bound value .int64 path side = .ok (.int64 word)) ↔ IsWord value) ∧
    (∀ word, bound value .int64 path side = .ok (.int64 word) ↔
      ∃ number, value = .finite number ∧ number.toRat = word.toInt) ∧
    (bound value .int64 path side = .error (.value path (wordFault value side)) ↔
      ¬ IsWord value) ∧
    (∀ literal, bound value .float64 path side = .ok literal ↔
      (∃ number, value = .finite number) ∧ literal = .float64 value) ∧
    (bound value .float64 path side = .error (.value path (.notFinite side value)) ↔
      ¬ ∃ number, value = .finite number) := by
  have words : (∃ word, bound value .int64 path side = .ok (.int64 word)) ↔ IsWord value := by
    constructor
    · intro succeeds
      rcases succeeds with ⟨word, bounded⟩
      rcases bound_eq_word_iff.mp bounded with ⟨number, finite, exact⟩
      exact isWord_iff.mpr ⟨number, word.toInt, finite, exact, word.le_toInt, word.toInt_lt⟩
    · intro isWord
      exact bound_succeeds_of_isWord isWord path side
  refine ⟨words, fun _ => bound_eq_word_iff, ?_, fun _ => bound_float64_eq_ok, ?_⟩
  · constructor
    · intro failed isWord
      rcases words.mpr isWord with ⟨word, bounded⟩
      cases failed.symm.trans bounded
    · intro noWord
      exact bound_fails_of_not_isWord noWord path side
  · cases value <;> simp [bound]

-- The least word is a double; the double nearest to the greatest one is not a word.
example (path : SchemaPath) (side : BoundSide) :
    bound (.ofInt64 Int64.minValue) .int64 path side = .ok (.int64 Int64.minValue) := rfl

example (path : SchemaPath) (side : BoundSide) :
    bound (.ofInt64 Int64.maxValue) .int64 path side =
      .error (.value path (.notInt64 side (.ofInt64 Int64.maxValue))) := rfl

end CrdCompiler.Metadata
