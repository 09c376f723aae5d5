/-
Maps that keep several values under one key.

A map is the list of its entries, and the values of a key stand in the order in
which they were put there.
-/

import Mathlib.Data.List.Basic

namespace Multimap

variable {κ β : Type} [DecidableEq κ]

abbrev Entries (κ β : Type) := List (κ × β)

def getAll (map : Entries κ β) (key : κ) : List β :=
  (map.filter fun entry => entry.1 = key).map Prod.snd

def remove (map : Entries κ β) (key : κ) : Entries κ β :=
  map.filter fun entry => entry.1 ≠ key

def insert (map : Entries κ β) (key : κ) (value : β) : Entries κ β :=
  remove map key ++ [(key, value)]

def append (map : Entries κ β) (key : κ) (value : β) : Entries κ β :=
  map ++ [(key, value)]

@[simp] theorem getAll_remove (map : Entries κ β) (key : κ) : getAll (remove map key) key = [] := by
  simp [getAll, remove, List.filter_filter]

variable {key other : κ}

theorem getAll_remove_ne (map : Entries κ β) (different : other ≠ key) :
    getAll (remove map key) other = getAll map other := by
  unfold getAll remove
  rw [List.filter_filter]
  congr 1
  apply List.filter_congr
  intro entry _
  by_cases same : entry.1 = other
  · simp [same, different]
  · simp [same]

@[simp] theorem getAll_append (map : Entries κ β) (key : κ) (value : β) :
    getAll (append map key value) key = getAll map key ++ [value] := by
  simp [getAll, append]

theorem getAll_append_ne (map : Entries κ β) (value : β) (different : other ≠ key) :
    getAll (append map key value) other = getAll map other := by
  simp [getAll, append, different.symm]

@[simp] theorem getAll_insert (map : Entries κ β) (key : κ) (value : β) :
    getAll (insert map key value) key = [value] := by
  have appended := getAll_append (remove map key) key value
  rwa [getAll_remove] at appended

theorem getAll_insert_ne (map : Entries κ β) (value : β) (different : other ≠ key) :
    getAll (insert map key value) other = getAll map other := by
  have appended := getAll_append_ne (remove map key) value different
  rwa [getAll_remove_ne map different] at appended

/-- A loop seen at one key. If an item changes what is seen at the key it names and at
no other, then only the items that name the key count. -/
theorem view_foldl {σ α ν : Type} {step : σ → α → σ} (view : σ → κ → ν) (names : α → Option κ)
    (change : α → ν → ν) {items : List α} (own : ∀ state, ∀ item ∈ items, names item = some key →
      view (step state item) key = change item (view state key))
    (others : ∀ state, ∀ item ∈ items, names item ≠ some key →
      view (step state item) key = view state key) (state : σ) :
    view (items.foldl step state) key =
      (items.filter fun item => names item = some key).foldl (fun seen item => change item seen)
        (view state key) := by
  induction items generalizing state with
  | nil => rfl
  | cons head rest ih =>
    have later := ih (fun state item member => own state item (List.mem_cons_of_mem _ member))
      (fun state item member => others state item (List.mem_cons_of_mem _ member))
      (step state head)
    rw [List.foldl_cons, later]
    by_cases named : names head = some key
    · rw [List.filter_cons, if_pos (decide_eq_true named), List.foldl_cons,
        own state head (List.mem_cons_self ..) named]
    · rw [List.filter_cons, if_neg (by simpa using named),
        others state head (List.mem_cons_self ..) named]

theorem foldl_replace (values : List β) (start : List β) :
    values.foldl (fun _ value => [value]) start =
      (values.getLast?.map fun last => [last]).getD start := by
  induction values generalizing start with
  | nil => rfl
  | cons head rest ih =>
    rw [List.foldl_cons, ih]
    cases rest with
    | nil => rfl
    | cons =>
      rw [List.getLast?_cons_cons, List.getLast?_eq_some_getLast (List.cons_ne_nil _ _)]
      rfl

theorem foldl_absent (values : List β) (start : List β) :
    values.foldl (fun seen value => if seen.isEmpty then [value] else seen) start =
      if start.isEmpty then values.head?.toList else start := by
  induction values generalizing start with
  | nil => cases start <;> rfl
  | cons head rest ih =>
    rw [List.foldl_cons, ih]
    cases start <;> rfl

theorem foldl_clear {α : Type} (items : List α) (start : List β) :
    items.foldl (fun _ _ => []) start = if items.isEmpty then start else [] := by
  cases items with
  | nil => rfl
  | cons head rest =>
    induction rest with
    | nil => rfl
    | cons second others ih => exact ih

theorem foldl_extend (values start : List β) :
    values.foldl (fun seen value => seen ++ [value]) start = start ++ values := by
  induction values generalizing start with
  | nil => simp
  | cons head rest ih => rw [List.foldl_cons, ih, List.append_assoc, List.singleton_append]

end Multimap
