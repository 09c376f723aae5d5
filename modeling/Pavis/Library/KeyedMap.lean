/-
Maps from keys to values.

A map is an association list without repeated keys. Changing every value leaves
the keys alone. Collecting pairs keeps the last value of a key.
-/

import Mathlib.Data.List.AList

namespace KeyedMap

variable {κ β γ : Type}

abbrev Map (κ β : Type) := AList fun _ : κ => β

def mapValues (change : β → γ) (map : Map κ β) : Map κ γ :=
  { entries := map.entries.map (Sigma.map id fun _ => change)
    nodupKeys := List.NodupKeys.map₂ (fun _ => change) map.entries map.nodupKeys }

def mapEntries (change : κ → β → γ) (map : Map κ β) : Map κ γ :=
  { entries := map.entries.map (Sigma.map id change)
    nodupKeys := List.NodupKeys.map₂ change map.entries map.nodupKeys }

def anyValue (test : β → Bool) (map : Map κ β) : Bool :=
  map.entries.any fun entry => test entry.2

variable [DecidableEq κ]

def ofPairs (pairs : List (κ × β)) : Map κ β :=
  pairs.foldl (fun map pair => map.insert pair.1 pair.2) ∅

def applyUpdate (change : κ → β → γ → β) (map : Map κ β) (update : Sigma fun _ : κ => γ) :
    Map κ β :=
  match map.lookup update.1 with
  | none => map
  | some value => map.insert update.1 (change update.1 value update.2)

def applyUpdates (change : κ → β → γ → β) (updates : Map κ γ) (map : Map κ β) : Map κ β :=
  updates.entries.foldl (applyUpdate change) map

@[simp] theorem lookup_mapValues (change : β → γ) (map : Map κ β) (key : κ) :
    (mapValues change map).lookup key = (map.lookup key).map change :=
  List.dlookup_map₂ (f := fun _ => change) key

theorem lookup_mapEntries (change : κ → β → γ) (map : Map κ β) (key : κ) :
    (mapEntries change map).lookup key = (map.lookup key).map (change key) :=
  List.dlookup_map₂ (f := change) key

theorem anyValue_iff (test : β → Bool) (map : Map κ β) :
    anyValue test map = true ↔ ∃ key value, map.lookup key = some value ∧ test value = true := by
  unfold anyValue
  rw [List.any_eq_true]
  constructor
  · intro found
    obtain ⟨⟨key, value⟩, member, holds⟩ := found
    exact ⟨key, value, (List.mem_dlookup_iff map.nodupKeys).mpr member, holds⟩
  · intro found
    obtain ⟨key, value, lookedUp, holds⟩ := found
    exact ⟨⟨key, value⟩, (List.mem_dlookup_iff map.nodupKeys).mp lookedUp, holds⟩

theorem lookup_foldl_insert {σ α : Type} (advance : σ → α → σ) (view : σ → Map κ β) (keyOf : α → κ)
    (inserts : ∀ state item, ∃ value,
      view (advance state item) = (view state).insert (keyOf item) value)
    (items : List α) (state : σ) (key : κ)
    (named : (∃ value, (view state).lookup key = some value) ∨
      ∃ item ∈ items, keyOf item = key) :
    ∃ value, (view (items.foldl advance state)).lookup key = some value := by
  induction items generalizing state with
  | nil =>
    rcases named with found | ⟨item, member, _⟩
    · exact found
    · cases member
  | cons item rest ih =>
    apply ih
    obtain ⟨value, inserted⟩ := inserts state item
    rw [inserted]
    by_cases same : key = keyOf item
    · rw [same]
      exact Or.inl ⟨value, AList.lookup_insert _⟩
    · rw [AList.lookup_insert_ne same]
      rcases named with found | ⟨other, member, keyed⟩
      · exact Or.inl found
      · rcases List.mem_cons.mp member with rfl | later
        · exact absurd keyed.symm same
        · exact Or.inr ⟨other, later, keyed⟩

theorem lookup_foldl_pairs (pairs : List (κ × β)) (map : Map κ β) (key : κ) :
    (pairs.foldl (fun map pair => map.insert pair.1 pair.2) map).lookup key =
      ((pairs.reverse.find? fun pair => pair.1 = key).map Prod.snd).or (map.lookup key) := by
  induction pairs generalizing map with
  | nil => rfl
  | cons pair rest ih =>
    rw [List.foldl_cons, ih, List.reverse_cons, List.find?_append]
    cases found : rest.reverse.find? fun pair => pair.1 = key with
    | some => rfl
    | none =>
      by_cases same : pair.1 = key
      · simp [same]
      · have different : key ≠ pair.1 := fun equal => same equal.symm
        simp [same, AList.lookup_insert_ne different]

theorem lookup_ofPairs (pairs : List (κ × β)) (key : κ) :
    (ofPairs pairs).lookup key =
      (pairs.reverse.find? fun pair => pair.1 = key).map Prod.snd := by
  unfold ofPairs
  rw [lookup_foldl_pairs, AList.lookup_empty, Option.or_none]

theorem lookup_ofPairs_filterMap (make : κ → β → Option γ) (map : Map κ β) (key : κ) :
    (ofPairs (map.entries.filterMap fun entry =>
      (make entry.1 entry.2).map fun made => (entry.1, made))).lookup key =
      (map.lookup key).bind (make key) := by
  rw [lookup_ofPairs]
  cases searched : (map.entries.filterMap fun entry =>
      (make entry.1 entry.2).map fun made => (entry.1, made)).reverse.find?
        fun pair => pair.1 = key with
  | some =>
    obtain ⟨⟨name, value⟩, listed, made⟩ :=
      List.mem_filterMap.mp (List.mem_reverse.mp (List.mem_of_find?_eq_some searched))
    obtain ⟨result, ran, rfl⟩ := Option.map_eq_some_iff.mp made
    have same := List.find?_some searched
    replace same : name = key := of_decide_eq_true same
    subst same
    have found : map.lookup name = some value := AList.mem_lookup_iff.mpr listed
    rw [found, Option.bind_some, ran]
    rfl
  | none =>
    cases made : (map.lookup key).bind (make key) with
    | none => rfl
    | some result =>
      obtain ⟨value, found, ran⟩ := Option.bind_eq_some_iff.mp made
      have absent := List.find?_eq_none.mp searched (key, result)
        (List.mem_reverse.mpr (List.mem_filterMap.mpr
          ⟨⟨key, value⟩, AList.mem_lookup_iff.mp found, by rw [ran]; rfl⟩))
      exact absurd (decide_eq_true rfl) absent

section

variable (change : κ → β → γ → β)

theorem lookup_applyUpdate_self (map : Map κ β) (key : κ) (update : γ) :
    (applyUpdate change map ⟨key, update⟩).lookup key =
      (map.lookup key).map fun value => change key value update := by
  unfold applyUpdate
  cases found : map.lookup key with
  | none => exact found
  | some => exact AList.lookup_insert _

theorem lookup_applyUpdate_ne (map : Map κ β) (update : Sigma fun _ : κ => γ) {key : κ}
    (different : key ≠ update.1) : (applyUpdate change map update).lookup key = map.lookup key := by
  unfold applyUpdate
  cases map.lookup update.1 with
  | none => rfl
  | some => exact AList.lookup_insert_ne different

theorem lookup_foldl_applyUpdate_filter (updates : List (Sigma fun _ : κ => γ)) (map : Map κ β)
    (key : κ) :
    (updates.foldl (applyUpdate change) map).lookup key =
      (map.lookup key).map fun value =>
        (updates.filter fun update => update.1 = key).foldl
          (fun value update => change key value update.2) value := by
  induction updates generalizing map with
  | nil => simp
  | cons update rest ih =>
    obtain ⟨updated, update⟩ := update
    rw [List.foldl_cons, ih]
    by_cases same : updated = key
    · subst same
      rw [lookup_applyUpdate_self, Option.map_map, List.filter_cons_of_pos (by simp)]
      rfl
    · rw [lookup_applyUpdate_ne change map _ (Ne.symm same),
        List.filter_cons_of_neg (by simpa using same)]

theorem lookup_foldl_applyUpdate (updates : List (Sigma fun _ : κ => γ))
    (distinct : updates.NodupKeys) (map : Map κ β) (key : κ) :
    (updates.foldl (applyUpdate change) map).lookup key =
      (map.lookup key).map fun value => (updates.dlookup key).elim value (change key value) := by
  induction updates generalizing map with
  | nil => simp
  | cons update rest ih =>
    obtain ⟨updated, update⟩ := update
    obtain ⟨absent, restDistinct⟩ := List.nodupKeys_cons.mp distinct
    rw [List.foldl_cons, ih restDistinct]
    by_cases same : key = updated
    · subst same
      rw [List.dlookup_eq_none.mpr absent, List.dlookup_cons_eq, lookup_applyUpdate_self,
        Option.map_map]
      rfl
    · rw [lookup_applyUpdate_ne change map _ same, List.dlookup_cons_ne _ _ same]

theorem lookup_applyUpdates (updates : Map κ γ) (map : Map κ β) (key : κ) :
    (applyUpdates change updates map).lookup key =
      (map.lookup key).map fun value => (updates.lookup key).elim value (change key value) :=
  lookup_foldl_applyUpdate change updates.entries updates.nodupKeys map key

end

end KeyedMap
