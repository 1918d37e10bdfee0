import CrdCompiler.Description
import CrdCompiler.Proofs.SelfDelimiting

/-! # Literals of patterns

A source literal is one segment or several joined by plus signs. Each segment shows where it ends,
so that a literal has one reading, and what the literal of a pattern reads as is the pattern.
-/

namespace CrdCompiler.Pattern

/-- A part of a literal: raw content between back quotes, which has none in it, or a back quote
between double quotes. -/
inductive Segment where
  | raw (content : List Char) (plain : '`' ∉ content)
  | backQuote
deriving DecidableEq

namespace Segment

def source : Segment → List Char
  | .raw content _ => '`' :: (content ++ ['`'])
  | .backQuote => ['"', '`', '"']

/-- The text that a segment stands for. -/
def meaning : Segment → List Char
  | .raw content _ => content
  | .backQuote => ['`']

def sourceOf (segments : List Segment) : String :=
  String.intercalate "+" (segments.map fun segment => String.ofList segment.source)

def meaningOf (segments : List Segment) : String :=
  String.ofList (segments.flatMap meaning)

theorem selfDelimiting_source : SelfDelimiting source := by
  intro left right leftRest rightRest same
  cases left with
  | raw content plain =>
      cases right with
      | raw others othersPlain =>
          simp only [source, List.cons_append, List.append_assoc, List.nil_append, List.cons.injEq,
            true_and] at same
          rcases eq_of_first_mark plain othersPlain same with ⟨rfl, rest⟩
          exact ⟨rfl, rest⟩
      | backQuote => exact absurd (List.cons.inj same).1 (by decide)
  | backQuote =>
      cases right with
      | raw others othersPlain => exact absurd (List.cons.inj same).1 (by decide)
      | backQuote => exact ⟨rfl, List.append_cancel_left same⟩

theorem sourceOf_toList (first : Segment) (rest : List Segment) :
    (sourceOf (first :: rest)).toList =
      first.source ++ rest.flatMap fun segment => '+' :: segment.source := by
  induction rest generalizing first with
  | nil => simp [sourceOf]
  | cons next rest induction =>
      have others := induction next
      simp only [sourceOf, List.map_cons, String.intercalate_cons_cons, String.toList_append]
        at others ⊢
      rw [others]
      simp

theorem sourceOf_injective : Function.Injective sourceOf := by
  have further : SelfDelimiting fun segments : List Segment =>
      segments.flatMap (fun segment => '+' :: segment.source) ++ ['\n'] := by
    apply SelfDelimiting.terminated
    · intro left right leftRest rightRest same
      exact selfDelimiting_source (List.cons.inj same).2
    · intro segment
      exact ⟨'+', segment.source, rfl, by decide⟩
  have inhabited (first : Segment) (rest : List Segment) :
      sourceOf [] ≠ sourceOf (first :: rest) := by
    intro same
    have characters := congrArg String.toList same
    rw [sourceOf_toList] at characters
    cases first <;> cases characters
  intro left right same
  cases left with
  | nil =>
      cases right with
      | nil => rfl
      | cons other others => exact absurd same (inhabited other others)
  | cons first rest =>
      cases right with
      | nil => exact absurd same.symm (inhabited first rest)
      | cons other others =>
          have characters := congrArg String.toList same
          rw [sourceOf_toList, sourceOf_toList] at characters
          rcases selfDelimiting_source characters with ⟨rfl, behind⟩
          have ended : (rest.flatMap (fun segment => '+' :: segment.source) ++ ['\n']) ++ [] =
              (others.flatMap (fun segment => '+' :: segment.source) ++ ['\n']) ++ [] := by
            rw [behind]
          rw [(further ended).1]

theorem count_backQuote (segments : List Segment) :
    segments.count .backQuote = (segments.flatMap meaning).count '`' := by
  induction segments with
  | nil => rfl
  | cons segment rest induction =>
      rw [List.flatMap_cons, List.count_append, ← induction]
      cases segment with
      | raw content plain =>
          rw [meaning, List.count_eq_zero_of_not_mem plain, Nat.zero_add]
          exact List.count_cons_of_ne (by simp)
      | backQuote =>
          rw [List.count_cons_self, Nat.add_comm]
          rfl

end Segment

open Segment

/-! ## Segments of a pattern -/

theorem notMem_of_mem_splitOn {mark : Char} {text part : List Char}
    (member : part ∈ text.splitOn mark) : mark ∉ part := by
  induction text generalizing part with
  | nil =>
      rw [List.splitOn_nil, List.mem_singleton] at member
      subst part
      exact List.not_mem_nil
  | cons character rest induction =>
      rw [List.splitOn_cons_eq_if_modifyHead] at member
      split at member
      · rcases List.mem_cons.mp member with rfl | member
        · exact List.not_mem_nil
        · exact induction member
      · rename_i other
        rcases List.exists_cons_of_ne_nil (List.splitOn_ne_nil mark rest) with ⟨first, parts, cut⟩
        rw [cut, List.modifyHead_cons] at member
        rcases List.mem_cons.mp member with rfl | member
        · have plain : mark ∉ first := induction (cut ▸ List.mem_cons_self)
          exact List.not_mem_cons_of_ne_of_not_mem (fun same => other (by simp [same])) plain
        · exact induction (cut ▸ List.mem_cons_of_mem _ member)

theorem piece_segments {part : List Char} (plain : '`' ∉ part) :
    ∃ segments : List Segment,
      pieces.piece part = segments.map (fun segment => String.ofList segment.source) ∧
        segments.flatMap meaning = part := by
  by_cases empty : part = []
  · exact ⟨[], by simp [pieces.piece, empty], empty.symm⟩
  · refine ⟨[.raw part plain], ?_, List.append_nil part⟩
    have written : "`" ++ String.ofList part ++ "`" = String.ofList ('`' :: (part ++ ['`'])) :=
      String.toList_inj.mp (by simp)
    simp [pieces.piece, empty, written, source]

/-- The pieces of a literal are segments, and they stand for the parts with a back quote between
every two. -/
theorem pieces_segments {parts : List (List Char)} (plain : ∀ part ∈ parts, '`' ∉ part) :
    ∃ segments : List Segment,
      pieces parts = segments.map (fun segment => String.ofList segment.source) ∧
        segments.flatMap meaning = ['`'].intercalate parts := by
  induction parts with
  | nil => exact ⟨[], rfl, rfl⟩
  | cons part rest induction =>
      rcases List.forall_mem_cons.mp plain with ⟨partPlain, restPlain⟩
      rcases piece_segments partPlain with ⟨first, written, meant⟩
      cases rest with
      | nil => exact ⟨first, written, by simp [meant]⟩
      | cons next others =>
          rcases induction restPlain with ⟨further, furtherWritten, furtherMeant⟩
          refine ⟨first ++ .backQuote :: further, ?_, ?_⟩
          · rw [pieces, written, furtherWritten, List.map_append, List.map_cons]
            · rfl
            · simp
          · rw [List.flatMap_append, List.flatMap_cons, meant, furtherMeant,
              List.intercalate_cons_cons]
            simp [meaning]

theorem literal_segments (pattern : String) :
    ∃ segments, segments ≠ [] ∧ sourceOf segments = literal pattern ∧
      meaningOf segments = pattern := by
  have plain : ∀ part ∈ pattern.toList.splitOn '`', '`' ∉ part :=
    fun _ member => notMem_of_mem_splitOn member
  have joined : ['`'].intercalate (pattern.toList.splitOn '`') = pattern.toList :=
    List.intercalate_splitOn '`'
  have parted := List.splitOn_ne_nil '`' pattern.toList
  unfold literal
  generalize pattern.toList.splitOn '`' = parts at plain joined parted
  cases parts with
  | nil => exact absurd rfl parted
  | cons part rest =>
      cases rest with
      | nil =>
          refine ⟨[.raw part (plain part List.mem_cons_self)], List.cons_ne_nil _ _, ?_, ?_⟩
          · exact String.toList_inj.mp (by simp [sourceOf, source])
          · exact String.toList_inj.mp (by simpa [meaningOf, meaning] using joined)
      | cons next others =>
          rcases pieces_segments plain with ⟨segments, written, meant⟩
          refine ⟨segments, ?_, ?_, ?_⟩
          · rintro rfl
            simp [pieces] at written
          · rw [sourceOf, ← written]
          · rw [meaningOf, meant, joined, String.ofList_toList]

/-- The literal of a pattern reads in one way as segments joined by plus signs. They stand for the
pattern, and as many of them are quoted back quotes as there are back quotes in the pattern. So
patterns with one literal are equal. -/
theorem literal_denotes_pattern :
    (∀ pattern, ∃ segments : List Segment, segments ≠ [] ∧
      (∀ others, sourceOf others = literal pattern ↔ others = segments) ∧
      meaningOf segments = pattern ∧
      segments.count .backQuote = pattern.toList.count '`') ∧
    Function.Injective literal := by
  constructor
  · intro pattern
    rcases literal_segments pattern with ⟨segments, inhabited, written, meant⟩
    refine ⟨segments, inhabited, ?_, meant, ?_⟩
    · intro others
      rw [← written]
      exact sourceOf_injective.eq_iff
    · rw [count_backQuote, ← meant, meaningOf, String.toList_ofList]
  · intro left right same
    rcases literal_segments left with ⟨segments, _, written, rfl⟩
    rcases literal_segments right with ⟨others, _, othersWritten, rfl⟩
    rw [← written, ← othersWritten] at same
    rw [sourceOf_injective same]

example : literal "`a``" = "\"`\"+`a`+\"`\"+\"`\"" := by decide +kernel

end CrdCompiler.Pattern
