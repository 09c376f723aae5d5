/-
How many different pool keys an upstream has.

A set keeps the instant at which each key was last inserted, and a queue with a record for
every insertion. Records leave at the front when they are too old, and while there are more
keys than the capacity.
-/

import Pavis.Library.ByteText
import Pavis.Library.KeyedMap
import Pavis.Library.LabelledRun

namespace Pavis.Telemetry

open ByteText KeyedMap LabelledRun

abbrev Instant := Nat

abbrev KeyRecord := Nat × Instant

structure BoundedKeySet where
  cap : Nat
  ttl : Nat
  entries : Map Nat Instant
  order : List KeyRecord

structure PoolKeyCardinalitySnapshot where
  cardinality : Nat
  saturated : Bool
  deriving DecidableEq

/-- The key leaves with the record of its last insertion. -/
def forget (entries : Map Nat Instant) (record : KeyRecord) : Map Nat Instant :=
  if entries.lookup record.1 = some record.2 then entries.erase record.1 else entries

def expiredLoop (ttl : Nat) (now : Instant) (entries : Map Nat Instant) :
    List KeyRecord → Map Nat Instant × List KeyRecord
  | [] => (entries, [])
  | record :: rest =>
    if now - record.2 ≤ ttl then (entries, record :: rest)
    else expiredLoop ttl now (forget entries record) rest

def overCapLoop (cap : Nat) (entries : Map Nat Instant) :
    List KeyRecord → Map Nat Instant × List KeyRecord
  | [] => (entries, [])
  | record :: rest =>
    if cap < entries.keys.length then overCapLoop cap (forget entries record) rest
    else (entries, record :: rest)

namespace BoundedKeySet

def new (cap : Nat) : BoundedKeySet :=
  { cap := cap, ttl := 60 * 1000000000, entries := ∅, order := [] }

def evictExpired (set : BoundedKeySet) (now : Instant) : BoundedKeySet :=
  let left := expiredLoop set.ttl now set.entries set.order
  { set with entries := left.1, order := left.2 }

def evictOverCap (set : BoundedKeySet) : BoundedKeySet :=
  let left := overCapLoop set.cap set.entries set.order
  { set with entries := left.1, order := left.2 }

def noted (set : BoundedKeySet) (key : Nat) (now : Instant) : BoundedKeySet :=
  { set with entries := set.entries.insert key now, order := set.order ++ [(key, now)] }

def snapshot (set : BoundedKeySet) : PoolKeyCardinalitySnapshot :=
  { cardinality := set.entries.keys.length
    saturated := set.cap ≤ set.entries.keys.length }

def insert (set : BoundedKeySet) (key : Nat) (now : Instant) :
    BoundedKeySet × PoolKeyCardinalitySnapshot :=
  let set := ((set.noted key now).evictExpired now).evictOverCap
  (set, set.snapshot)

def records (set : BoundedKeySet) : Nat := set.entries.keys.length + set.order.length

end BoundedKeySet

/-- Every key has the record of its last insertion in the queue. -/
def Recorded (entries : Map Nat Instant) (order : List KeyRecord) : Prop :=
  ∀ key stamp, entries.lookup key = some stamp → (key, stamp) ∈ order

section

variable {entries : Map Nat Instant} {record : KeyRecord}

theorem keys_length_erase {key : Nat} {stamp : Instant}
    (present : entries.lookup key = some stamp) :
    (entries.erase key).keys.length + 1 = entries.keys.length := by
  have member : key ∈ entries.keys := AList.lookup_isSome.mp (by rw [present]; rfl)
  rw [AList.keys_erase, List.length_erase_of_mem member]
  have positive := List.length_pos_of_mem member
  omega

private theorem lookup_forget {key : Nat} {stamp : Instant}
    (kept : (forget entries record).lookup key = some stamp) :
    entries.lookup key = some stamp ∧ (key, stamp) ≠ record := by
  unfold forget at kept
  split at kept
  · by_cases same : key = record.1
    · rw [same, AList.lookup_erase] at kept
      cases kept
    · rw [AList.lookup_erase_ne same] at kept
      refine ⟨kept, ?_⟩
      intro equal
      exact same (congrArg Prod.fst equal)
  · rename_i other
    refine ⟨kept, ?_⟩
    rintro rfl
    exact other kept

theorem keys_length_forget (entries : Map Nat Instant) (record : KeyRecord) :
    (forget entries record).keys.length ≤ entries.keys.length ∧
      entries.keys.length ≤ (forget entries record).keys.length + 1 := by
  unfold forget
  split
  · rename_i present
    have fewer := keys_length_erase present
    omega
  · omega

theorem Recorded.forget {rest : List KeyRecord} (recorded : Recorded entries (record :: rest)) :
    Recorded (forget entries record) rest := by
  intro key stamp kept
  obtain ⟨before, different⟩ := lookup_forget kept
  exact (List.mem_cons.mp (recorded key stamp before)).resolve_left different

theorem Recorded.keys_nil (recorded : Recorded entries []) : entries.keys = [] := by
  rw [List.eq_nil_iff_forall_not_mem]
  intro key member
  obtain ⟨stamp, found⟩ := Option.isSome_iff_exists.mp (AList.lookup_isSome.mpr member)
  exact absurd (recorded key stamp found) List.not_mem_nil

/-- What both loops keep: the keys have their records, and no more records are left over
than there were. -/
structure Evicted (entries : Map Nat Instant) (order : List KeyRecord)
    (left : Map Nat Instant × List KeyRecord) : Prop where
  recorded : Recorded left.1 left.2
  surplus : left.2.length + entries.keys.length ≤ left.1.keys.length + order.length

variable {order : List KeyRecord}

theorem Evicted.refl (recorded : Recorded entries order) : Evicted entries order (entries, order) :=
  ⟨recorded, Nat.le_of_eq (Nat.add_comm _ _)⟩

theorem Evicted.cons {rest : List KeyRecord} {left : Map Nat Instant × List KeyRecord}
    (later : Evicted (forget entries record) rest left) :
    Evicted entries (record :: rest) left := by
  have keys := keys_length_forget entries record
  have surplus := later.surplus
  refine ⟨later.recorded, ?_⟩
  rw [List.length_cons]
  omega

theorem expiredLoop_evicted (ttl : Nat) (now : Instant) (recorded : Recorded entries order) :
    Evicted entries order (expiredLoop ttl now entries order) := by
  induction order generalizing entries with
  | nil => exact Evicted.refl recorded
  | cons record rest ih =>
    rw [expiredLoop]
    split
    · exact Evicted.refl recorded
    · exact (ih recorded.forget).cons

private theorem overCapLoop_evicted (cap : Nat) (recorded : Recorded entries order) :
    Evicted entries order (overCapLoop cap entries order) ∧
      (overCapLoop cap entries order).1.keys.length ≤ cap := by
  induction order generalizing entries with
  | nil =>
    refine ⟨Evicted.refl recorded, ?_⟩
    rw [overCapLoop, recorded.keys_nil]
    exact Nat.zero_le cap
  | cons record rest ih =>
    rw [overCapLoop]
    split
    · obtain ⟨evicted, small⟩ := ih recorded.forget
      exact ⟨evicted.cons, small⟩
    · rename_i small
      exact ⟨Evicted.refl recorded, Nat.le_of_not_lt small⟩

end

namespace BoundedKeySet

def tracks (set : BoundedKeySet) (key : Nat) : Bool := (set.entries.lookup key).isSome

/-- What every insertion leaves behind. -/
structure Tidy (set : BoundedKeySet) : Prop where
  recorded : Recorded set.entries set.order
  capped : set.entries.keys.length ≤ set.cap

theorem tidy_new (cap : Nat) : (new cap).Tidy := by
  refine ⟨?_, Nat.zero_le cap⟩
  intro key stamp found
  cases found

private theorem noted_recorded {set : BoundedKeySet} (recorded : Recorded set.entries set.order)
    (key : Nat) (now : Instant) :
    Recorded (set.noted key now).entries (set.noted key now).order := by
  intro other stamp found
  unfold noted at found ⊢
  dsimp only at found ⊢
  by_cases same : other = key
  · rw [same, AList.lookup_insert] at found
    rw [same, Option.some.inj found]
    exact List.mem_append_right _ (List.mem_singleton_self _)
  · rw [AList.lookup_insert_ne same] at found
    exact List.mem_append_left _ (recorded other stamp found)

theorem keys_length_noted (set : BoundedKeySet) (key : Nat) (now : Instant) :
    (set.noted key now).entries.keys.length + (set.tracks key).toNat =
      set.entries.keys.length + 1 := by
  unfold noted tracks
  dsimp only
  rw [AList.keys_insert, List.length_cons]
  cases found : set.entries.lookup key with
  | none =>
    have absent : key ∉ set.entries.keys := AList.lookup_eq_none.mp found
    rw [List.erase_of_not_mem absent]
    rfl
  | some =>
    have fewer := keys_length_erase found
    rw [AList.keys_erase] at fewer
    rw [Option.isSome_some, Bool.toNat_true]
    omega

private theorem insert_tidy {set : BoundedKeySet} (tidy : set.Tidy) (key : Nat) (now : Instant) :
    (set.insert key now).1.Tidy ∧ (set.insert key now).1.cap = set.cap ∧
      (set.insert key now).1.order.length + set.entries.keys.length ≤
        (set.insert key now).1.entries.keys.length + set.order.length +
          (set.tracks key).toNat := by
  have keys := set.keys_length_noted key now
  have queue : (set.noted key now).order.length = set.order.length + 1 := by
    unfold noted
    rw [List.length_append, List.length_singleton]
  have expired := expiredLoop_evicted set.ttl now (noted_recorded tidy.recorded key now)
  obtain ⟨evicted, small⟩ := overCapLoop_evicted set.cap expired.recorded
  have left : ((set.insert key now).1.entries, (set.insert key now).1.order) =
      overCapLoop set.cap (expiredLoop set.ttl now (set.noted key now).entries
        (set.noted key now).order).1 (expiredLoop set.ttl now (set.noted key now).entries
          (set.noted key now).order).2 := rfl
  rw [← left] at evicted
  have first := expired.surplus
  have second := evicted.surplus
  exact ⟨⟨evicted.recorded, small⟩, rfl, by dsimp only at second; omega⟩

end BoundedKeySet

def insertStep : Machine BoundedKeySet (Nat × Instant) PoolKeyCardinalitySnapshot :=
  fun set call => some (set.insert call.1 call.2)

theorem insertStep_accepted {step : Step BoundedKeySet (Nat × Instant) PoolKeyCardinalitySnapshot}
    (accepted : step.Accepted insertStep) :
    (step.before.insert step.label.1 step.label.2).1 = step.after ∧
      step.output = step.after.snapshot := by
  have both : step.before.insert step.label.1 step.label.2 = (step.after, step.output) :=
    Option.some.inj accepted
  have moved : (step.before.insert step.label.1 step.label.2).1 = step.after := by rw [both]
  have shown : (step.before.insert step.label.1 step.label.2).2 = step.output := by rw [both]
  refine ⟨moved, ?_⟩
  rw [← shown, ← moved]
  rfl

/-- The call inserts a key that is still tracked. -/
def reinserts (step : Step BoundedKeySet (Nat × Instant) PoolKeyCardinalitySnapshot) : Bool :=
  step.before.tracks step.label.1

/-- The records of the queue without a key of their own grow by no more than the calls. -/
structure Grown (before after : BoundedKeySet) (calls : Nat) : Prop where
  tidy : after.Tidy
  cap : after.cap = before.cap
  surplus : after.order.length + before.entries.keys.length ≤
    after.entries.keys.length + before.order.length + calls

variable {set : BoundedKeySet}

theorem Grown.refl (tidy : set.Tidy) : Grown set set 0 :=
  ⟨tidy, rfl, by omega⟩

theorem Grown.trans {first second third : BoundedKeySet} {calls more : Nat}
    (early : Grown first second calls) (late : Grown second third more) :
    Grown first third (calls + more) := by
  have surplus := early.surplus
  have later := late.surplus
  exact ⟨late.tidy, late.cap.trans early.cap, by omega⟩

theorem step_grown {step : Step BoundedKeySet (Nat × Instant) PoolKeyCardinalitySnapshot}
    (accepted : step.Accepted insertStep) (tidy : step.before.Tidy) :
    Grown step.before step.after (reinserts step).toNat := by
  have moved := (insertStep_accepted accepted).1
  obtain ⟨after, same, surplus⟩ := BoundedKeySet.insert_tidy tidy step.label.1 step.label.2
  rw [moved] at after same surplus
  exact ⟨after, same, surplus⟩

theorem Grown.records_le {cap calls : Nat} (grown : Grown (.new cap) set calls) :
    set.records ≤ 2 * cap + calls := by
  have surplus : set.order.length ≤ set.entries.keys.length + 0 + calls := grown.surplus
  have small : set.entries.keys.length ≤ cap :=
    Nat.le_trans grown.tidy.capped (Nat.le_of_eq grown.cap)
  unfold BoundedKeySet.records
  omega

section

variable {cap : Nat} {steps : List (Step BoundedKeySet (Nat × Instant) PoolKeyCardinalitySnapshot)}

/-- Every call that inserts a tracked key may leave one record more behind. -/
theorem records_le_reinserted (isRun : IsRun insertStep (.new cap) steps) :
    (final (.new cap) steps).records ≤ 2 * cap + steps.countP reinserts := by
  have grown : Grown (.new cap) (final (.new cap) steps) (([] ++ steps).countP reinserts) :=
    isRun.history_from (fun history set => Grown (.new cap) set (history.countP reinserts))
      (Grown.refl (BoundedKeySet.tidy_new cap)) (fun _ => True) (fun _ _ => trivial)
      (by
        intro history step accepted _ early
        have late := early.trans (step_grown accepted early.tidy)
        rwa [List.countP_append, countP_cons_toNat])
  exact grown.records_le

/-- In every run without such a call, the records in every state are bounded by the capacity
alone. -/
theorem records_bounded_of_fresh (isRun : IsRun insertStep (.new cap) steps)
    (fresh : ∀ step ∈ steps, reinserts step = false) {set : BoundedKeySet}
    (visited : Visits (.new cap) steps set) : set.records ≤ 2 * cap := by
  have kept : Grown (.new cap) set 0 := isRun.guarded_visited
    (fun set => Grown (.new cap) set 0) (Grown.refl (BoundedKeySet.tidy_new cap))
    (fun step => reinserts step = false) fresh
    (by
      intro step accepted first early
      have late := step_grown accepted early.tidy
      rw [first] at late
      exact early.trans late)
    visited
  exact kept.records_le

end

structure PoolKeyCardinalityTracker where
  cap : Nat
  inner : Map Text BoundedKeySet

namespace PoolKeyCardinalityTracker

def new (cap : Nat) : PoolKeyCardinalityTracker := { cap := cap, inner := ∅ }

/-- The set of an upstream, which is made when it is first needed. -/
def setOf (upstream : Text) (tracker : PoolKeyCardinalityTracker) : BoundedKeySet :=
  (tracker.inner.lookup upstream).getD (.new tracker.cap)

def record (tracker : PoolKeyCardinalityTracker) (upstream : Text) (keyHash : Nat)
    (now : Instant) : PoolKeyCardinalityTracker × PoolKeyCardinalitySnapshot :=
  let inserted := (tracker.setOf upstream).insert keyHash now
  ({ tracker with inner := tracker.inner.insert upstream inserted.1 }, inserted.2)

end PoolKeyCardinalityTracker

structure RecordCall where
  upstream : Text
  keyHash : Nat
  now : Instant
  deriving DecidableEq

def recordStep : Machine PoolKeyCardinalityTracker RecordCall PoolKeyCardinalitySnapshot :=
  fun tracker call => some (tracker.record call.upstream call.keyHash call.now)

/-- The insertion that a call makes for an upstream. -/
def RecordCall.insertion (upstream : Text) (call : RecordCall) : Option (Nat × Instant) :=
  if call.upstream = upstream then some (call.keyHash, call.now) else none

variable {cap : Nat}

/-- Each upstream sees a run of its own set, whatever is recorded for the others. -/
theorem tracker_projects
    {steps : List (Step PoolKeyCardinalityTracker RecordCall PoolKeyCardinalitySnapshot)}
    (isRun : IsRun recordStep (.new cap) steps) (upstream : Text) :
    IsRun insertStep (.new cap)
      (steps.filterMap (Step.project (PoolKeyCardinalityTracker.setOf upstream)
        (RecordCall.insertion upstream))) := by
  change IsRun insertStep ((PoolKeyCardinalityTracker.new cap).setOf upstream) _
  refine IsRun.project (fun _ => True) (fun _ _ _ => trivial) ?_ ?_ trivial isRun
  · rintro ⟨tracker, call, after, output⟩ accepted _ other
    change recordStep tracker call = some (after, output) at accepted
    cases accepted
    have different : upstream ≠ call.upstream := by
      rintro rfl
      exact Option.some_ne_none _ ((if_pos rfl).symm.trans other)
    unfold PoolKeyCardinalityTracker.setOf
    dsimp only
    rw [AList.lookup_insert_ne different]
  · rintro ⟨tracker, call, after, output⟩ accepted _ shown own
    change recordStep tracker call = some (after, output) at accepted
    cases accepted
    obtain ⟨rfl, same⟩ := Option.ite_none_right_eq_some.mp own
    cases same
    unfold PoolKeyCardinalityTracker.setOf
    dsimp only
    rw [AList.lookup_insert]
    rfl

theorem tracker_projects_api :
    IsRun insertStep (.new 2) ((trace recordStep (.new 2)
      [⟨literal "api", 7, 0⟩, ⟨literal "web", 8, 1⟩, ⟨literal "api", 9, 2⟩]).filterMap
        (Step.project (PoolKeyCardinalityTracker.setOf (literal "api"))
          (RecordCall.insertion (literal "api")))) :=
  tracker_projects (trace_isRun _ _ _) (literal "api")

def repeated (count : Nat) : List (Nat × Instant) := List.replicate count (7, 0)

def busySet (cap count : Nat) : BoundedKeySet :=
  { BoundedKeySet.new cap with
    entries := AList.singleton 7 0
    order := repeated count }

theorem insert_of_noted {count : Nat} (room : 1 ≤ cap)
    (noted : set.noted 7 0 = busySet cap (count + 1)) :
    (set.insert 7 0).1 = busySet cap (count + 1) := by
  have expired : (busySet cap (count + 1)).evictExpired 0 = busySet cap (count + 1) := by
    simp [BoundedKeySet.evictExpired, busySet, repeated, List.replicate_succ, expiredLoop]
  have capped : (busySet cap (count + 1)).evictOverCap = busySet cap (count + 1) := by
    have small : ¬ (BoundedKeySet.new cap).cap < 1 := Nat.not_lt.mpr room
    simp [BoundedKeySet.evictOverCap, busySet, repeated, List.replicate_succ, overCapLoop, small]
  unfold BoundedKeySet.insert
  dsimp only
  rw [noted, expired, capped]

private theorem noted_busySet (cap count : Nat) :
    (busySet cap count).noted 7 0 = busySet cap (count + 1) := by
  unfold BoundedKeySet.noted busySet
  dsimp only
  rw [AList.insert_singleton_eq, repeated, ← List.replicate_succ']
  rfl

private theorem final_busySet (room : 1 ≤ cap) (count calls : Nat) :
    final (busySet cap count) (trace insertStep (busySet cap count) (repeated calls)) =
      busySet cap (count + calls) := by
  induction calls generalizing count with
  | zero => rfl
  | succ calls ih =>
    have moved := insert_of_noted room (noted_busySet cap count)
    rw [repeated, List.replicate_succ, trace, insertStep]
    dsimp only
    rw [final, moved]
    have shifted : count + (calls + 1) = count + 1 + calls := by omega
    rw [shifted]
    exact ih (count + 1)

private theorem final_repeated (room : 1 ≤ cap) (calls : Nat) :
    final (.new cap) (trace insertStep (.new cap) (repeated (calls + 1))) =
      busySet cap (calls + 1) := by
  have moved : ((BoundedKeySet.new cap).insert 7 0).1 = busySet cap (0 + 1) :=
    insert_of_noted room rfl
  rw [repeated, List.replicate_succ, trace, insertStep]
  dsimp only
  rw [final, moved, Nat.add_comm calls 1]
  exact final_busySet room 1 calls

/-- No bound by the capacity holds of all runs with a clock that does not go back. -/
theorem repeated_inserts_unbounded :
    ¬ ∃ bound : Nat → Nat, ∀ cap steps, IsRun insertStep (.new cap) steps →
      (steps.map fun step => step.label.2).Pairwise (· ≤ ·) →
        (final (.new cap) steps).records ≤ bound cap := by
  rintro ⟨bound, bounded⟩
  have stamps : ((trace insertStep (.new 1) (repeated (bound 1 + 1))).map
      fun step => step.label.2).Pairwise (· ≤ ·) := by
    apply List.pairwise_of_forall_mem_list
    intro early earlyMember late lateMember
    obtain ⟨step, member, rfl⟩ := List.mem_map.mp earlyMember
    have label := List.eq_of_mem_replicate (label_of_mem_trace member)
    rw [label]
    exact Nat.zero_le late
  have small := bounded 1 _ (trace_isRun insertStep (.new 1) (repeated (bound 1 + 1))) stamps
  rw [final_repeated (Nat.le_refl 1)] at small
  have total : (busySet 1 (bound 1 + 1)).records = 1 + (bound 1 + 1) := by
    simp [BoundedKeySet.records, busySet, repeated]
  omega

/-- Three keys in a set for two. -/
theorem distinct_keys_bounded :
    (final (.new 2) (trace insertStep (.new 2) [(1, 0), (2, 5), (3, 9)])).order =
        [(2, 5), (3, 9)] ∧
      (final (.new 2) (trace insertStep (.new 2) [(1, 0), (2, 5), (3, 9)])).records ≤ 2 * 2 := by
  refine ⟨by decide, ?_⟩
  exact records_bounded_of_fresh (trace_isRun insertStep (.new 2) _) (by decide)
    (visits_final _ _)

end Pavis.Telemetry
