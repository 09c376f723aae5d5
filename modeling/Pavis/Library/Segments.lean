/-
The pieces of a text between separators.

Splitting a text that was put together splits its parts, except at the seam, where
the last piece of the first part and the first piece of the second become one.
-/

import Mathlib.Data.List.Basic

namespace Segments

variable {α : Type} [DecidableEq α] (separator : α)

def segments (text : List α) : List (List α) :=
  (text.splitOn separator).filter fun piece => !piece.isEmpty

theorem splitOn_cons_separator (text : List α) :
    (separator :: text).splitOn separator = [] :: text.splitOn separator := by
  simp [List.splitOn, List.splitOnP_cons_eq_if_modifyHead]

theorem splitOn_cons_ne {head : α} (different : head ≠ separator) (text : List α) :
    (head :: text).splitOn separator = (text.splitOn separator).modifyHead (List.cons head) := by
  simp [List.splitOn, List.splitOnP_cons_eq_if_modifyHead, different]

theorem exists_first_piece (text : List α) : ∃ first rest, text.splitOn separator = first :: rest :=
  List.exists_cons_of_ne_nil (List.splitOnP_ne_nil _ text)

theorem splitOn_append (front back : List α) :
    ∃ pieces last first rest, front.splitOn separator = pieces ++ [last] ∧
      back.splitOn separator = first :: rest ∧
      (front ++ back).splitOn separator = pieces ++ (last ++ first) :: rest := by
  induction front with
  | nil =>
    obtain ⟨first, rest, split⟩ := exists_first_piece separator back
    exact ⟨[], [], first, rest, rfl, split, split⟩
  | cons head front ih =>
    obtain ⟨pieces, last, first, rest, frontSplit, backSplit, split⟩ := ih
    rw [List.cons_append]
    by_cases same : head = separator
    · subst same
      rw [splitOn_cons_separator, splitOn_cons_separator, frontSplit, split]
      exact ⟨[] :: pieces, last, first, rest, rfl, backSplit, rfl⟩
    · rw [splitOn_cons_ne separator same, splitOn_cons_ne separator same, frontSplit, split]
      cases pieces with
      | nil => exact ⟨[], head :: last, first, rest, rfl, backSplit, rfl⟩
      | cons piece pieces =>
        exact ⟨(head :: piece) :: pieces, last, first, rest, rfl, backSplit, rfl⟩

theorem segments_nil : segments separator [] = [] := by
  simp [segments, List.splitOn_nil]

theorem segments_cons_separator (text : List α) :
    segments separator (separator :: text) = segments separator text := by
  unfold segments
  rw [splitOn_cons_separator]
  rfl

theorem segments_separated (front back : List α) :
    segments separator (front ++ separator :: back) =
      segments separator front ++ segments separator back := by
  obtain ⟨pieces, last, first, rest, frontSplit, backSplit, split⟩ :=
    splitOn_append separator front (separator :: back)
  rw [splitOn_cons_separator] at backSplit
  cases backSplit
  unfold segments
  rw [split, frontSplit, ← List.filter_append, List.append_assoc, List.append_nil]
  rfl

theorem segments_glued (front back : List α) {before after : α} (closing : before ≠ separator)
    (opening : after ≠ separator) :
    ∃ pieces last first rest, last ≠ [] ∧ first ≠ [] ∧
      segments separator (front ++ [before]) = pieces ++ [last] ∧
      segments separator (after :: back) = first :: rest ∧
      segments separator (front ++ [before] ++ after :: back) =
        pieces ++ (last ++ first) :: rest := by
  obtain ⟨inner, tail, single, others, innerSplit, singleSplit, closed⟩ :=
    splitOn_append separator front [before]
  rw [splitOn_cons_ne separator closing, List.splitOn_nil] at singleSplit
  cases singleSplit
  obtain ⟨pieces, last, first, rest, frontSplit, backSplit, split⟩ :=
    splitOn_append separator (front ++ [before]) (after :: back)
  rw [closed] at frontSplit
  obtain ⟨rfl, ends⟩ := List.append_inj' frontSplit rfl
  cases ends
  obtain ⟨second, more, backRest⟩ := exists_first_piece separator back
  have opened : (after :: back).splitOn separator = (after :: second) :: more := by
    rw [splitOn_cons_ne separator opening, backRest]
    rfl
  rw [opened] at backSplit
  cases backSplit
  refine ⟨inner.filter fun piece => !piece.isEmpty, tail ++ [before], after :: second,
    rest.filter fun piece => !piece.isEmpty, by simp, by simp, ?_, ?_, ?_⟩
  · simp [segments, closed]
  · simp [segments, opened]
  · rw [segments, split]
    simp

variable {text : List α} {character : α}

theorem exists_segment (member : character ∈ text) (inside : character ≠ separator) :
    ∃ piece ∈ segments separator text, character ∈ piece := by
  obtain ⟨front, back, rfl⟩ := List.append_of_mem member
  obtain ⟨pieces, last, first, rest, _, backSplit, split⟩ :=
    splitOn_append separator front (character :: back)
  have listed : character ∈ first := by
    rw [splitOn_cons_ne separator inside] at backSplit
    obtain ⟨second, more, backRest⟩ := exists_first_piece separator back
    rw [backRest] at backSplit
    cases backSplit
    exact List.mem_cons_self
  refine ⟨last ++ first, ?_, List.mem_append_right last listed⟩
  unfold segments
  rw [split]
  have kept : (!(last ++ first).isEmpty) = true := by
    simp [List.ne_nil_of_mem listed]
  exact List.mem_filter.mpr ⟨by simp, kept⟩

theorem mem_of_mem_splitOn {piece : List α} (listed : piece ∈ text.splitOn separator)
    (member : character ∈ piece) : character ∈ text := by
  induction text generalizing piece with
  | nil =>
    rw [List.splitOn_nil, List.mem_singleton] at listed
    rw [listed] at member
    exact member
  | cons head rest ih =>
    by_cases same : head = separator
    · subst same
      rw [splitOn_cons_separator] at listed
      rcases List.mem_cons.mp listed with rfl | later
      · cases member
      · exact List.mem_cons_of_mem _ (ih later member)
    · obtain ⟨first, more, whole⟩ := exists_first_piece separator rest
      rw [splitOn_cons_ne separator same, whole] at listed
      rcases List.mem_cons.mp listed with rfl | later
      · rcases List.mem_cons.mp member with rfl | inside
        · exact List.mem_cons_self
        · exact List.mem_cons_of_mem _ (ih (by rw [whole]; exact List.mem_cons_self) inside)
      · exact List.mem_cons_of_mem _
          (ih (by rw [whole]; exact List.mem_cons_of_mem _ later) member)

theorem mem_of_mem_segments {piece : List α} (listed : piece ∈ segments separator text)
    (member : character ∈ piece) : character ∈ text :=
  mem_of_mem_splitOn separator (List.mem_filter.mp listed).1 member

end Segments
