/-
Searching for the first match.

A loop that leaves at the first hit and keeps counters on the way selects what
a plain search selects, as long as no hit depends on the counters.
-/

import Mathlib.Data.List.AList

namespace FirstMatch

variable {α β κ τ : Type}

def firstSome (body : α → τ → Option β × τ) : List α → τ → Option β × τ
  | [], counters => (none, counters)
  | item :: rest, counters =>
    match body item counters with
    | (some result, counters) => (some result, counters)
    | (none, counters) => firstSome body rest counters

variable {items : List α}

theorem firstSome_fst {body : α → τ → Option β × τ} {hit : α → Option β}
    (uncounted : ∀ item ∈ items, ∀ counters, (body item counters).1 = hit item) (counters : τ) :
    (firstSome body items counters).1 = items.findSome? hit := by
  induction items generalizing counters with
  | nil => rfl
  | cons item rest ih =>
    have first := uncounted item List.mem_cons_self counters
    unfold firstSome
    cases ran : body item counters with
    | mk found after =>
      rw [ran] at first
      cases found with
      | some => rw [List.findSome?_cons, ← first]
      | none =>
        rw [List.findSome?_cons, ← first]
        exact ih
          (fun later member => uncounted later (List.mem_cons_of_mem item member)) after

theorem findSome?_congr {hit other : α → Option β} (same : ∀ item ∈ items, hit item = other item) :
    items.findSome? hit = items.findSome? other := by
  induction items with
  | nil => rfl
  | cons item rest ih =>
    rw [List.findSome?_cons, List.findSome?_cons, same item List.mem_cons_self,
      ih fun later member => same later (List.mem_cons_of_mem item member)]

theorem firstSome_congr {body other : α → τ → Option β × τ}
    (same : ∀ item ∈ items, ∀ counters, body item counters = other item counters) (counters : τ) :
    firstSome body items counters = firstSome other items counters := by
  induction items generalizing counters with
  | nil => rfl
  | cons item rest ih =>
    unfold firstSome
    rw [same item List.mem_cons_self counters]
    split
    · rfl
    · exact ih (fun later member => same later (List.mem_cons_of_mem item member)) _

def allOf (test : α → τ → Bool × τ) : List α → τ → Bool × τ
  | [], counters => (true, counters)
  | item :: rest, counters =>
    match test item counters with
    | (true, counters) => allOf test rest counters
    | (false, counters) => (false, counters)

theorem allOf_congr {test other : α → τ → Bool × τ}
    (same : ∀ item ∈ items, ∀ counters, test item counters = other item counters) (counters : τ) :
    allOf test items counters = allOf other items counters := by
  induction items generalizing counters with
  | nil => rfl
  | cons item rest ih =>
    unfold allOf
    rw [same item List.mem_cons_self counters]
    split
    · exact ih (fun later member => same later (List.mem_cons_of_mem item member)) _
    · rfl

theorem allOf_fst {test : α → τ → Bool × τ} {holds : α → Bool}
    (uncounted : ∀ item counters, (test item counters).1 = holds item) (items : List α)
    (counters : τ) : (allOf test items counters).1 = items.all holds := by
  induction items generalizing counters with
  | nil => rfl
  | cons item rest ih =>
    have first := uncounted item counters
    unfold allOf
    cases ran : test item counters with
    | mk passed after =>
      rw [ran] at first
      cases passed with
      | true =>
        rw [List.all_cons, ← first, Bool.true_and]
        exact ih after
      | false =>
        rw [List.all_cons, ← first]
        rfl

section
variable [DecidableEq κ]

def orInsert (map : AList fun _ : κ => α) (key : κ) (value : α) : AList fun _ : κ => α :=
  if key ∈ map then map else map.insert key value

theorem lookup_orInsert (map : AList fun _ : κ => α) (key : κ) (value : α) (wanted : κ) :
    (orInsert map key value).lookup wanted =
      (map.lookup wanted).or (if wanted = key then some value else none) := by
  unfold orInsert
  by_cases present : key ∈ map
  · rw [if_pos present]
    by_cases same : wanted = key
    · subst same
      obtain ⟨found, foundAt⟩ := Option.isSome_iff_exists.mp (AList.lookup_isSome.mpr present)
      rw [foundAt, Option.some_or]
    · rw [if_neg same, Option.or_none]
  · rw [if_neg present]
    by_cases same : wanted = key
    · subst same
      rw [AList.lookup_insert, AList.lookup_eq_none.mpr present, if_pos rfl, Option.none_or]
    · rw [AList.lookup_insert_ne same, if_neg same, Option.or_none]

end

end FirstMatch
