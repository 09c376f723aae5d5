/-
Stable sorting by a key, followed by the removal of adjacent repeats.

A stable sort keeps the order of the elements of one key, so the repeats that
survive the second pass are those that another element of the same key held
apart in the list that was sorted.
-/

import Mathlib.Data.List.Sort
import Mathlib.Data.List.Dedup
import Mathlib.Data.List.Destutter
import Mathlib.Data.List.Duplicate

namespace SortedRuns

variable {α κ : Type} [LinearOrder κ] {key : α → κ}

def sortByKey (key : α → κ) (items : List α) : List α :=
  items.insertionSort (fun left right => key left ≤ key right)

theorem sortByKey_perm (key : α → κ) (items : List α) : (sortByKey key items).Perm items :=
  List.perm_insertionSort _ items

variable {items : List α} {item : α}

@[simp] theorem mem_sortByKey : item ∈ sortByKey key items ↔ item ∈ items :=
  (sortByKey_perm key items).mem_iff

private instance keyOrder_trans : IsTrans α (fun left right => key left ≤ key right) :=
  ⟨fun _ _ _ first second => le_trans first second⟩

private instance keyOrder_total : Std.Total (fun left right : α => key left ≤ key right) :=
  ⟨fun left right => le_total (key left) (key right)⟩

theorem sortByKey_sorted (key : α → κ) (items : List α) :
    (sortByKey key items).Pairwise (fun left right => key left ≤ key right) :=
  List.pairwise_insertionSort _ items

theorem sortByKey_of_sorted (sorted : items.Pairwise (fun left right => key left ≤ key right)) :
    sortByKey key items = items :=
  sorted.insertionSort_eq

theorem filter_sortByKey (items : List α) (chosen : κ) :
    (sortByKey key items).filter (fun item => key item = chosen) =
      items.filter (fun item => key item = chosen) := by
  have level : (items.filter (fun item => key item = chosen)).Pairwise
      (fun left right => key left ≤ key right) := by
    rw [List.pairwise_iff_forall_sublist]
    intro left right pair
    have leftKey := List.of_mem_filter (pair.subset (by simp : left ∈ [left, right]))
    have rightKey := List.of_mem_filter (pair.subset (by simp : right ∈ [left, right]))
    exact le_of_eq ((of_decide_eq_true leftKey).trans (of_decide_eq_true rightKey).symm)
  have kept : (items.filter (fun item => key item = chosen)).Sublist (sortByKey key items) :=
    List.sublist_insertionSort level List.filter_sublist
  have inside := kept.filter (fun item => decide (key item = chosen))
  rw [List.filter_filter] at inside
  simp only [Bool.and_self] at inside
  have counted := ((sortByKey_perm key items).filter
    (fun item => decide (key item = chosen))).length_eq
  exact (inside.eq_of_length counted.symm).symm

private theorem around_sortByKey {between : α} (level : key between = key item) :
    [item, between, item].Sublist (sortByKey key items) ↔
      [item, between, item].Sublist items := by
  have own : [item, between, item].filter (fun entry => decide (key entry = key item)) =
      [item, between, item] := by
    simp [level]
  constructor
  · intro inside
    have filtered := inside.filter (fun entry => decide (key entry = key item))
    rw [own, filter_sortByKey] at filtered
    exact filtered.trans List.filter_sublist
  · intro inside
    have filtered := inside.filter (fun entry => decide (key entry = key item))
    rw [own, ← filter_sortByKey] at filtered
    exact filtered.trans List.filter_sublist

private theorem nodup_of_isChain (differ : items.IsChain (· ≠ ·))
    (apart : ∀ item between, [item, between, item].Sublist items → between = item) :
    items.Nodup := by
  induction items with
  | nil => exact List.nodup_nil
  | cons head rest ih =>
    rw [List.nodup_cons]
    constructor
    · intro again
      cases rest with
      | nil => cases again
      | cons next tail =>
        rw [List.isChain_cons_cons] at differ
        rcases List.mem_cons.mp again with same | later
        · exact differ.1 same
        · have around : [head, next, head].Sublist (head :: next :: tail) :=
            ((List.singleton_sublist.mpr later).cons_cons next).cons_cons head
          exact differ.1 (apart head next around).symm
    · exact ih differ.tail (fun item between inside => apart item between (inside.cons head))

variable [DecidableEq α]

/-- Of each run of equal elements the first stays. -/
def dedupAdjacent (items : List α) : List α := items.destutter (· ≠ ·)

theorem dedupAdjacent_sublist (items : List α) : (dedupAdjacent items).Sublist items :=
  List.destutter_sublist _ items

theorem dedupAdjacent_isChain (items : List α) : (dedupAdjacent items).IsChain (· ≠ ·) :=
  List.isChain_destutter _ items

theorem dedupAdjacent_of_isChain (differ : items.IsChain (· ≠ ·)) : dedupAdjacent items = items :=
  List.destutter_of_isChain _ items differ

private theorem sublist_destutter' {run : List α} (head : α) (differ : run.IsChain (· ≠ ·))
    (inside : run.Sublist (head :: items)) : run.Sublist (items.destutter' (· ≠ ·) head) := by
  induction items generalizing head run with
  | nil => exact inside
  | cons next rest ih =>
    by_cases same : head = next
    · subst same
      rw [List.destutter'_cons_neg _ (fun distinct => distinct rfl)]
      cases inside with
      | cons _ inner => exact ih head differ inner
      | cons_cons _ inner =>
        cases inner with
        | cons _ innermost => exact ih head differ (innermost.cons_cons head)
        | cons_cons =>
          rw [List.isChain_cons_cons] at differ
          exact absurd rfl differ.1
    · rw [List.destutter'_cons_pos _ same]
      cases inside with
      | cons _ inner => exact (ih next differ inner).cons head
      | cons_cons _ inner => exact (ih next differ.tail inner).cons_cons head

theorem sublist_dedupAdjacent {run : List α} (differ : run.IsChain (· ≠ ·))
    (inside : run.Sublist items) : run.Sublist (dedupAdjacent items) := by
  cases items with
  | nil => exact inside
  | cons head => exact sublist_destutter' head differ inside

@[simp] theorem mem_dedupAdjacent : item ∈ dedupAdjacent items ↔ item ∈ items := by
  constructor
  · intro kept
    exact (dedupAdjacent_sublist items).subset kept
  · intro listed
    have single := sublist_dedupAdjacent (List.isChain_singleton item)
      (List.singleton_sublist.mpr listed)
    exact List.singleton_sublist.mp single

theorem dedupAdjacent_eq_dedup (distinct : (dedupAdjacent items).Nodup) :
    dedupAdjacent items = items.dedup := by
  induction items with
  | nil => rfl
  | cons head rest ih =>
    cases rest with
    | nil => rfl
    | cons next later =>
      by_cases same : head = next
      · subst same
        have once : dedupAdjacent (head :: head :: later) = dedupAdjacent (head :: later) :=
          List.destutter'_cons_neg _ (fun different => different rfl)
        rw [once] at distinct ⊢
        rw [List.dedup_cons_of_mem List.mem_cons_self, ih distinct]
      · have kept : dedupAdjacent (head :: next :: later) =
            head :: dedupAdjacent (next :: later) :=
          List.destutter'_cons_pos _ same
        rw [kept, List.nodup_cons, mem_dedupAdjacent] at distinct
        rw [kept, List.dedup_cons_of_notMem distinct.1, ih distinct.2]

/-- Between two occurrences of an element every element of its key equals it. -/
def Gathered (key : α → κ) (items : List α) : Prop :=
  ∀ item ∈ items, ∀ between ∈ items,
    key between = key item → [item, between, item].Sublist items → between = item

instance gathered_decidable (items : List α) : Decidable (Gathered key items) :=
  inferInstanceAs (Decidable (∀ item ∈ items, ∀ between ∈ items,
    key between = key item → [item, between, item].Sublist items → between = item))

omit [LinearOrder κ] [DecidableEq α] in
theorem Gathered.of_sublist {part : List α} (gathered : Gathered key items)
    (inside : part.Sublist items) : Gathered key part := by
  intro item listed between betweenListed level around
  exact gathered item (inside.subset listed) between (inside.subset betweenListed) level
    (around.trans inside)

/-- Sorting by key and dropping adjacent repeats leaves no repeat exactly when
no other element of the same key stood between two equal ones. -/
theorem nodup_dedupAdjacent_sortByKey (items : List α) :
    (dedupAdjacent (sortByKey key items)).Nodup ↔ Gathered key items := by
  constructor
  · intro distinct item _ between _ level around
    by_contra different
    have differ : [item, between, item].IsChain (· ≠ ·) := by
      simp [different, Ne.symm different]
    have kept := sublist_dedupAdjacent differ ((around_sortByKey level).mpr around)
    have outer : [item, item].Sublist [item, between, item] :=
      ((List.Sublist.refl [item]).cons between).cons_cons item
    exact List.nodup_iff_sublist.mp distinct item (outer.trans kept)
  · intro gathered
    apply nodup_of_isChain (dedupAdjacent_isChain _)
    intro item between inside
    have sorted := inside.trans (dedupAdjacent_sublist _)
    -- sorted keys that return to the first one never left it
    have ordered := (sortByKey_sorted key items).sublist sorted
    simp only [List.pairwise_cons, List.mem_cons, List.not_mem_nil, or_false, forall_eq_or_imp,
      forall_eq] at ordered
    have level : key between = key item := le_antisymm ordered.2.1 ordered.1.1
    have around := (around_sortByKey level).mp sorted
    exact gathered item (around.subset (by simp)) between (around.subset (by simp)) level around

end SortedRuns
