/-
The last pair of every key.

A list of pairs is read as the calls that assign values to keys. The last pair of a
key counts, and a map may be kept beside the list that holds just these pairs.
-/

import Pavis.Library.KeyedMap

namespace LatestPairs

open KeyedMap

variable {κ β : Type} [DecidableEq κ]

def latest : List (κ × β) → List (κ × β)
  | [] => []
  | pair :: later =>
    if pair.1 ∈ later.map Prod.fst then latest later else pair :: latest later

theorem latest_sublist (pairs : List (κ × β)) : (latest pairs).Sublist pairs := by
  induction pairs with
  | nil => exact List.Sublist.slnil
  | cons pair later ih =>
    rw [latest]
    split
    · exact ih.cons pair
    · exact ih.cons_cons pair

theorem mem_keys_latest {key : κ} {pairs : List (κ × β)} :
    key ∈ (latest pairs).map Prod.fst ↔ key ∈ pairs.map Prod.fst := by
  induction pairs with
  | nil => rfl
  | cons pair later ih =>
    rw [latest]
    split
    · rename_i repeats
      rw [ih, List.map_cons, List.mem_cons]
      constructor
      · exact Or.inr
      · rintro (rfl | behind)
        · exact repeats
        · exact behind
    · rw [List.map_cons, List.map_cons, List.mem_cons, List.mem_cons, ih]

theorem keys_latest_nodup (pairs : List (κ × β)) : ((latest pairs).map Prod.fst).Nodup := by
  induction pairs with
  | nil => exact List.nodup_nil
  | cons pair later ih =>
    rw [latest]
    split
    · exact ih
    · rename_i fresh
      rw [List.map_cons, List.nodup_cons, mem_keys_latest]
      exact ⟨fresh, ih⟩

theorem latest_append (early late : List (κ × β)) :
    latest (early ++ late) =
      ((latest early).filter fun pair => pair.1 ∉ late.map Prod.fst) ++ latest late := by
  induction early with
  | nil => rfl
  | cons pair later ih =>
    rw [List.cons_append, latest, latest, List.map_append]
    by_cases again : pair.1 ∈ later.map Prod.fst
    · rw [if_pos (List.mem_append_left _ again), if_pos again, ih]
    · rw [if_neg again, List.filter_cons]
      by_cases replaced : pair.1 ∈ late.map Prod.fst
      · rw [if_pos (List.mem_append_right _ replaced), if_neg (by simpa using replaced), ih]
      · rw [if_neg (by simp only [List.mem_append, again, replaced, or_self, not_false_eq_true]),
          if_pos (by simpa using replaced), ih, List.cons_append]

def Reflects (map : Map κ β) (pairs : List (κ × β)) : Prop :=
  ∀ key value, map.lookup key = some value ↔ (key, value) ∈ latest pairs

variable {map : Map κ β} {pairs : List (κ × β)}

theorem Reflects.keys_length (reflects : Reflects map pairs) :
    map.keys.length = (latest pairs).length := by
  rw [← List.length_map Prod.fst]
  apply List.Perm.length_eq
  rw [List.perm_ext_iff_of_nodup map.keys_nodup (keys_latest_nodup pairs)]
  intro key
  rw [← AList.mem_keys, ← AList.lookup_isSome, Option.isSome_iff_exists, List.mem_map]
  constructor
  · rintro ⟨value, found⟩
    exact ⟨(key, value), (reflects key value).mp found, rfl⟩
  · rintro ⟨⟨_, value⟩, member, rfl⟩
    exact ⟨value, (reflects _ value).mpr member⟩

theorem Reflects.insert (reflects : Reflects map pairs) (key : κ) (value : β) :
    Reflects (map.insert key value) (pairs ++ [(key, value)]) := by
  intro other found
  rw [latest_append, List.mem_append, List.mem_filter]
  by_cases same : other = key
  · subst same
    simp [latest, AList.lookup_insert, eq_comm]
  · rw [AList.lookup_insert_ne same, reflects]
    simp [latest, same]

variable {pair : κ × β}

theorem Reflects.tail_of_mem (reflects : Reflects map (pair :: pairs))
    (again : pair.1 ∈ pairs.map Prod.fst) : Reflects map pairs := by
  unfold Reflects at reflects
  rw [latest, if_pos again] at reflects
  exact reflects

theorem Reflects.tail_of_not_mem (reflects : Reflects map (pair :: pairs))
    (last : pair.1 ∉ pairs.map Prod.fst) :
    map.lookup pair.1 = some pair.2 ∧ Reflects (map.erase pair.1) pairs := by
  unfold Reflects at reflects
  rw [latest, if_neg last] at reflects
  refine ⟨(reflects _ _).mpr List.mem_cons_self, ?_⟩
  intro key value
  by_cases same : key = pair.1
  · rw [same, AList.lookup_erase]
    refine iff_of_false nofun ?_
    intro member
    exact last (mem_keys_latest.mp (List.mem_map.mpr ⟨_, member, rfl⟩))
  · rw [AList.lookup_erase_ne same, reflects, List.mem_cons, or_iff_right]
    intro equal
    exact same (congrArg Prod.fst equal)

end LatestPairs
