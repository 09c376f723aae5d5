/-
The keys of a sliding window.

Along calls at increasing instants the queue is what is left of the calls at their end, and
the map holds the last record of every key in it.
-/

import Pavis.Library.LatestPairs
import Pavis.Telemetry.PoolKeys

namespace Pavis.Telemetry

open KeyedMap LabelledRun LatestPairs

/-- The last insertions of the keys within the window, as many of the newest as the capacity
allows. -/
def recentInsertions (cap ttl : Nat) (now : Instant) (calls : List KeyRecord) : List KeyRecord :=
  let within := (latest calls).filter fun record => now - record.2 ≤ ttl
  within.drop (within.length - cap)

def Increasing (calls : List KeyRecord) : Prop :=
  calls.Pairwise fun early late => early.2 < late.2

theorem within_of_le {ttl : Nat} {now later early late : Instant} (reached : now ≤ later)
    (ordered : early ≤ late) (within : later - early ≤ ttl) : now - late ≤ ttl :=
  Nat.le_trans (Nat.le_trans (Nat.sub_le_sub_right reached late)
    (Nat.sub_le_sub_left ordered later)) within

section

variable {entries : Map Nat Instant} {record : KeyRecord} {order rest : List KeyRecord}

theorem forget_reflects (increasing : Increasing (record :: rest))
    (reflects : Reflects entries (record :: rest)) : Reflects (forget entries record) rest := by
  unfold forget
  by_cases again : record.1 ∈ rest.map Prod.fst
  · have kept := reflects.tail_of_mem again
    obtain ⟨⟨_, stamp⟩, member, same⟩ := List.mem_map.mp (mem_keys_latest.mpr again)
    cases same
    have newer : record.2 < stamp :=
      (List.pairwise_cons.mp increasing).1 _ ((latest_sublist rest).subset member)
    rw [(kept _ _).mpr member, if_neg (by simpa using Nat.ne_of_gt newer)]
    exact kept
  · obtain ⟨present, left⟩ := reflects.tail_of_not_mem again
    rw [if_pos present]
    exact left

private theorem expiredLoop_leaves (ttl : Nat) (now : Instant) (increasing : Increasing order)
    (reflects : Reflects entries order) :
    ∃ gone, order = gone ++ (expiredLoop ttl now entries order).2 ∧
      Reflects (expiredLoop ttl now entries order).1 (expiredLoop ttl now entries order).2 ∧
      (∀ record ∈ gone, ttl < now - record.2) ∧
      ∀ record ∈ (expiredLoop ttl now entries order).2, now - record.2 ≤ ttl := by
  induction order generalizing entries with
  | nil => exact ⟨[], rfl, reflects, nofun, nofun⟩
  | cons record rest ih =>
    obtain ⟨later, increases⟩ := List.pairwise_cons.mp increasing
    rw [expiredLoop]
    split
    · rename_i within
      refine ⟨[], rfl, reflects, nofun, ?_⟩
      intro other member
      rcases List.mem_cons.mp member with rfl | behind
      · exact within
      · exact within_of_le (Nat.le_refl now) (Nat.le_of_lt (later other behind)) within
    · rename_i expired
      obtain ⟨gone, split, kept, old, young⟩ := ih increases (forget_reflects increasing reflects)
      refine ⟨record :: gone, congrArg (record :: ·) split, kept, ?_, young⟩
      exact List.forall_mem_cons.mpr ⟨Nat.lt_of_not_le expired, old⟩

private theorem overCapLoop_leaves (cap : Nat) (increasing : Increasing order)
    (reflects : Reflects entries order) :
    ∃ gone, order = gone ++ (overCapLoop cap entries order).2 ∧
      Reflects (overCapLoop cap entries order).1 (overCapLoop cap entries order).2 ∧
      (overCapLoop cap entries order).1.keys.length = min cap entries.keys.length ∧
      (gone ≠ [] → cap < entries.keys.length) := by
  induction order generalizing entries with
  | nil =>
    have none : entries.keys.length = 0 := reflects.keys_length
    refine ⟨[], rfl, reflects, ?_, nofun⟩
    rw [overCapLoop]
    dsimp only
    omega
  | cons record rest ih =>
    rw [overCapLoop]
    split
    · rename_i full
      have fewer := keys_length_forget entries record
      obtain ⟨gone, split, kept, keys, _⟩ :=
        ih (List.pairwise_cons.mp increasing).2 (forget_reflects increasing reflects)
      exact ⟨record :: gone, congrArg (record :: ·) split, kept, by omega, fun _ => full⟩
    · rename_i small
      exact ⟨[], rfl, reflects, by dsimp only; omega, nofun⟩

end

/-- What the set is after some calls. A record that left the queue and is not too old left
because of the capacity, which the newer keys still take up. -/
structure Follows (calls : List KeyRecord) (set : BoundedKeySet) : Prop where
  reflects : Reflects set.entries set.order
  capped : set.entries.keys.length ≤ set.cap
  left : ∃ gone, calls = gone ++ set.order ∧ ∀ record ∈ gone, ∀ now,
    (∀ call ∈ calls, call.2 ≤ now) → now - record.2 ≤ set.ttl →
      set.entries.keys.length = set.cap

private theorem follows_new (cap : Nat) : Follows [] (.new cap) := by
  refine ⟨?_, Nat.zero_le cap, [], rfl, nofun⟩
  intro key stamp
  exact iff_of_false nofun nofun

variable {calls : List KeyRecord} {set : BoundedKeySet}

theorem Follows.insert {key : Nat} {now : Instant} (follows : Follows calls set)
    (increasing : Increasing (calls ++ [(key, now)])) :
    Follows (calls ++ [(key, now)]) (set.insert key now).1 ∧
      ∀ record ∈ (set.insert key now).1.order, now - record.2 ≤ set.ttl := by
  obtain ⟨reflects, _, gone, rfl, full⟩ := follows
  rw [List.append_assoc] at increasing
  obtain ⟨_, increases, apart⟩ := List.pairwise_append.mp increasing
  have noted := reflects.insert key now
  obtain ⟨aged, agedSplit, young, old, within⟩ := expiredLoop_leaves set.ttl now increases noted
  rw [agedSplit] at increases
  obtain ⟨surplus, overSplit, kept, keys, crowded⟩ :=
    overCapLoop_leaves set.cap (List.pairwise_append.mp increases).2.1 young
  change Reflects (set.insert key now).1.entries (set.insert key now).1.order at kept
  change (set.insert key now).1.entries.keys.length = _ at keys
  change _ = surplus ++ (set.insert key now).1.order at overSplit
  refine ⟨⟨kept, keys ▸ Nat.min_le_left _ _, gone ++ aged ++ surplus, ?_, ?_⟩, ?_⟩
  · rw [List.append_assoc, agedSplit, overSplit, List.append_assoc, List.append_assoc]
  · intro record member later bound fresh
    have reached : now ≤ later := bound (key, now) (List.mem_append_right _ List.mem_cons_self)
    change _ = set.cap
    rw [keys]
    rcases List.mem_append.mp member with earlier | crowdedOut
    · rcases List.mem_append.mp earlier with before | expired
      · -- The queue is newer than the record, so nothing in it is too old.
        have none : aged = [] := by
          rw [List.eq_nil_iff_forall_not_mem]
          intro other expired
          have newer := apart record before other (agedSplit ▸ List.mem_append_left _ expired)
          exact absurd (within_of_le reached (Nat.le_of_lt newer) fresh)
            (Nat.not_le_of_lt (old other expired))
        have counted := full record before later
          (fun call within => bound call (List.mem_append_left _ within)) fresh
        have grown := set.keys_length_noted key now
        have most := Bool.toNat_le (set.tracks key)
        have same := young.keys_length
        rw [none, List.nil_append] at agedSplit
        rw [← agedSplit, ← noted.keys_length] at same
        change _ = (set.noted key now).entries.keys.length at same
        rw [same]
        omega
      · exact absurd (within_of_le reached (Nat.le_refl record.2) fresh)
          (Nat.not_le_of_lt (old record expired))
    · exact Nat.min_eq_left (Nat.le_of_lt (crowded (List.ne_nil_of_mem crowdedOut)))
  · intro record member
    exact within record (overSplit ▸ List.mem_append_right _ member)

theorem Follows.recent {now : Instant} (follows : Follows calls set)
    (reached : ∀ call ∈ calls, call.2 ≤ now)
    (within : ∀ record ∈ set.order, now - record.2 ≤ set.ttl) :
    recentInsertions set.cap set.ttl now calls = latest set.order := by
  obtain ⟨reflects, capped, gone, rfl, full⟩ := follows
  rw [reflects.keys_length] at capped full
  have kept : (latest set.order).filter (fun record => now - record.2 ≤ set.ttl) =
      latest set.order := by
    rw [List.filter_eq_self]
    intro record member
    exact decide_eq_true (within record ((latest_sublist set.order).subset member))
  unfold recentInsertions
  dsimp only
  rw [latest_append, List.filter_append, kept, List.length_append]
  cases earlier : List.filter (fun record : KeyRecord => decide (now - record.2 ≤ set.ttl))
      (List.filter _ (latest gone)) with
  | nil =>
    rw [List.length_nil, Nat.zero_add, Nat.sub_eq_zero_of_le capped]
    rfl
  | cons record rest =>
    obtain ⟨replaced, fresh⟩ := List.mem_filter.mp (earlier ▸ List.mem_cons_self : record ∈ _)
    have before := (latest_sublist gone).subset (List.mem_of_mem_filter replaced)
    rw [full record before now reached (of_decide_eq_true fresh), Nat.add_sub_cancel]
    exact List.drop_left

section

variable {cap : Nat} {front back : List (Step BoundedKeySet KeyRecord PoolKeyCardinalitySnapshot)}
  {step : Step BoundedKeySet KeyRecord PoolKeyCardinalitySnapshot}

private theorem run_follows (follows : Follows calls set) (isRun : IsRun insertStep set front)
    (increasing : Increasing (calls ++ front.map Step.label)) :
    Follows (calls ++ front.map Step.label) (final set front) ∧
      (final set front).cap = set.cap ∧ (final set front).ttl = set.ttl := by
  induction front generalizing calls set with
  | nil =>
    rw [List.map_nil, List.append_nil]
    exact ⟨follows, rfl, rfl⟩
  | cons head tail ih =>
    obtain ⟨rfl, accepted, rest⟩ := isRun
    have moved := (insertStep_accepted accepted).1
    rw [List.map_cons, List.append_cons] at increasing ⊢
    have inserted := (follows.insert (List.pairwise_append.mp increasing).1).1
    rw [moved] at inserted
    obtain ⟨later, sameCap, sameTtl⟩ := ih inserted rest increasing
    exact ⟨later, sameCap.trans (moved ▸ rfl), sameTtl.trans (moved ▸ rfl)⟩

/-- After each of the calls, which come at increasing instants, the map holds the last
insertions within the window of as many of the newest keys as the capacity allows, and the
snapshot has their number. -/
theorem recent_keys_tracked (isRun : IsRun insertStep (.new cap) (front ++ step :: back))
    (increasing : Increasing ((front ++ step :: back).map Step.label)) :
    let recent := recentInsertions cap (BoundedKeySet.new cap).ttl step.label.2
      (front.map Step.label ++ [step.label])
    (∀ key stamp, step.after.entries.lookup key = some stamp ↔ (key, stamp) ∈ recent) ∧
      (recent.map Prod.fst).Nodup ∧ step.output.cardinality = recent.length := by
  rw [List.append_cons] at isRun increasing
  rw [List.map_append] at increasing
  have increases := (List.pairwise_append.mp increasing).1
  rw [List.map_append] at increases
  obtain ⟨before, accepted, _⟩ := isRun.append_left.around
  obtain ⟨earlier, _, apart⟩ := List.pairwise_append.mp increases
  obtain ⟨follows, sameCap, sameTtl⟩ :=
    run_follows (follows_new cap) isRun.append_left.append_left earlier
  rw [← before] at follows sameCap sameTtl
  obtain ⟨inserted, within⟩ := follows.insert increases
  have reached : ∀ call ∈ front.map Step.label ++ [step.label], call.2 ≤ step.label.2 := by
    intro call member
    rcases List.mem_append.mp member with first | last
    · exact Nat.le_of_lt (apart call first _ List.mem_cons_self)
    · rw [List.mem_singleton.mp last]
  have recent := inserted.recent reached within
  have reflects := inserted.reflects
  change recentInsertions step.before.cap step.before.ttl _ _ = _ at recent
  obtain ⟨moved, shown⟩ := insertStep_accepted accepted
  rw [moved] at recent reflects
  rw [sameCap, sameTtl] at recent
  intro counted
  have equal : counted = latest step.after.order := recent
  rw [equal, shown]
  exact ⟨reflects, keys_latest_nodup step.after.order, reflects.keys_length⟩

/-- The first record of a key that was inserted again leaves the queue and the key stays. -/
theorem recent_keys_tracked_repeated :
    let set := final (.new 2) (trace insertStep (.new 2) [(1, 0), (2, 5), (1, 7)])
    (set.insert 3 9).1.entries.lookup 1 = some 7 ∧ (set.insert 3 9).1.entries.lookup 2 = none ∧
      (set.insert 3 9).2.cardinality = 2 := by
  intro set
  obtain ⟨tracked, _, counted⟩ := @recent_keys_tracked 2
    (trace insertStep (.new 2) [(1, 0), (2, 5), (1, 7)]) []
    ⟨set, (3, 9), (set.insert 3 9).1, (set.insert 3 9).2⟩
    (trace_isRun insertStep (.new 2) [(1, 0), (2, 5), (1, 7), (3, 9)])
    (by unfold Increasing; decide)
  refine ⟨(tracked 1 7).mpr (by decide), ?_, counted⟩
  rw [Option.eq_none_iff_forall_ne_some]
  intro stamp found
  have member : (2, stamp) ∈ [(1, 7), (3, 9)] := (tracked 2 stamp).mp found
  simp at member

end

end Pavis.Telemetry
