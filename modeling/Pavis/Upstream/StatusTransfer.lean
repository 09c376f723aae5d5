/-
Statuses across a replacement of the endpoints.

A replacement takes each status out of the old map as it meets the spelling in the
new list, so a spelling that the list repeats finds nothing the second time and ends
with the default.
-/

import Pavis.Upstream.ClusterRuns

namespace Pavis.Upstream

open Config KeyedMap LabelledRun
open EndpointKey (fromEndpoint fromAddr)

/-- The statuses are those of the endpoints. -/
def HealthState.Matched (health : HealthState) : Prop :=
  ∀ key, (health.statuses.lookup key).isSome = true ↔
    ∃ endpoint ∈ health.endpoints, fromEndpoint endpoint = key

/-- The same endpoints, and statuses for the same of them. -/
structure HealthState.SameKeys (left right : HealthState) : Prop where
  endpoints : right.endpoints = left.endpoints
  keys : ∀ key, (right.statuses.lookup key).isSome = (left.statuses.lookup key).isSome

namespace HealthState

theorem SameKeys.refl (health : HealthState) : health.SameKeys health := ⟨rfl, fun _ => rfl⟩

theorem SameKeys.matched {left right : HealthState} (same : left.SameKeys right)
    (matched : left.Matched) : right.Matched := by
  intro key
  rw [same.keys key, same.endpoints]
  exact matched key

variable {key : EndpointKey}

theorem SameKeys.of_insert {health : HealthState} {status : EndpointStatus}
    (found : health.statuses.lookup key = some status) (changed : EndpointStatus) :
    health.SameKeys { health with statuses := health.statuses.insert key changed } := by
  refine ⟨rfl, ?_⟩
  intro other
  by_cases same : other = key
  · rw [same, found, AList.lookup_insert]
    rfl
  · rw [AList.lookup_insert_ne same]

theorem clearExpiredEjections_sameKeys (health : HealthState) (now : Instant) :
    health.SameKeys (health.clearExpiredEjections now).1 := by
  refine ⟨rfl, ?_⟩
  intro key
  simp only [clearExpiredEjections, lookup_mapValues, Option.isSome_map]

theorem Edits.sameKeys {health : HealthState} {result : HealthState × Bool}
    (edits : health.Edits result) : health.SameKeys result.1 := by
  cases edits with
  | unchanged => exact .refl health
  | inserts found changed => exact .of_insert found changed
  | clears now => exact health.clearExpiredEjections_sameKeys now

theorem matched_new (endpoints : List Endpoint) : (HealthState.new endpoints).Matched := by
  have inserted : ∀ (items : List Endpoint) (start : Map EndpointKey EndpointStatus) key,
      ((items.foldl insertDefault start).lookup key).isSome = true ↔
        (start.lookup key).isSome = true ∨
          ∃ endpoint ∈ items, fromEndpoint endpoint = key := by
    intro items
    induction items with
    | nil => simp
    | cons head rest ih =>
      intro start key
      rw [List.foldl_cons, ih, insertDefault]
      by_cases same : key = fromEndpoint head
      · subst same
        rw [AList.lookup_insert]
        simp
      · have different : fromEndpoint head ≠ key := fun equal => same equal.symm
        simp [AList.lookup_insert_ne same, different]
  intro key
  have spelled := inserted endpoints ∅ key
  simpa [HealthState.new] using spelled

def spellings (endpoints : List Endpoint) (key : EndpointKey) : Nat :=
  endpoints.countP fun endpoint => fromEndpoint endpoint = key

/-- The status under a key once the list has been gone through, from what the old and
the new map had under it before. -/
def inherited (old new : Option EndpointStatus) : Nat → Option EndpointStatus
  | 0 => new
  | 1 => some (old.getD {})
  | _ + 2 => some {}

private theorem moveStatus_key
    (maps : Map EndpointKey EndpointStatus × Map EndpointKey EndpointStatus) (endpoint : Endpoint) :
    (moveStatus maps endpoint).1.lookup (fromEndpoint endpoint) = none ∧
      (moveStatus maps endpoint).2.lookup (fromEndpoint endpoint) =
        some ((maps.1.lookup (fromEndpoint endpoint)).getD {}) :=
  ⟨AList.lookup_erase _ _, AList.lookup_insert _⟩

private theorem moveStatus_other
    (maps : Map EndpointKey EndpointStatus × Map EndpointKey EndpointStatus) {endpoint : Endpoint}
    (different : key ≠ fromEndpoint endpoint) :
    (moveStatus maps endpoint).1.lookup key = maps.1.lookup key ∧
      (moveStatus maps endpoint).2.lookup key = maps.2.lookup key :=
  ⟨AList.lookup_erase_ne different, AList.lookup_insert_ne different⟩

private theorem lookup_moveStatuses (endpoints : List Endpoint)
    (maps : Map EndpointKey EndpointStatus × Map EndpointKey EndpointStatus) (key : EndpointKey) :
    (endpoints.foldl moveStatus maps).2.lookup key =
      inherited (maps.1.lookup key) (maps.2.lookup key) (spellings endpoints key) := by
  induction endpoints generalizing maps with
  | nil => rfl
  | cons head rest ih =>
    rw [List.foldl_cons, ih]
    by_cases same : fromEndpoint head = key
    · subst same
      obtain ⟨gone, moved⟩ := moveStatus_key maps head
      have counted : spellings (head :: rest) (fromEndpoint head) =
          spellings rest (fromEndpoint head) + 1 :=
        List.countP_cons_of_pos (decide_eq_true rfl)
      rw [gone, moved, counted]
      cases spellings rest (fromEndpoint head) with
      | zero => rfl
      | succ more =>
        cases more with
        | zero | succ => rfl
    · obtain ⟨old, new⟩ := moveStatus_other maps (Ne.symm same)
      have counted : spellings (head :: rest) key = spellings rest key :=
        List.countP_cons_of_neg (by simpa using same)
      rw [old, new, counted]

theorem lookup_updateEndpoints (health : HealthState) (endpoints : List Endpoint)
    (key : EndpointKey) :
    (health.updateEndpoints endpoints).statuses.lookup key =
      inherited (health.statuses.lookup key) none (spellings endpoints key) :=
  lookup_moveStatuses endpoints (health.statuses, ∅) key

theorem spellings_pos {endpoints : List Endpoint} :
    0 < spellings endpoints key ↔
      ∃ endpoint ∈ endpoints, fromEndpoint endpoint = key := by
  unfold spellings
  simp only [List.countP_pos_iff, decide_eq_true_eq]

private theorem matched_updateEndpoints (health : HealthState) (endpoints : List Endpoint) :
    (health.updateEndpoints endpoints).Matched := by
  intro key
  rw [lookup_updateEndpoints]
  change _ ↔ ∃ endpoint ∈ endpoints, fromEndpoint endpoint = key
  rw [← spellings_pos]
  cases spellings endpoints key with
  | zero => simp [inherited]
  | succ more => cases more <;> simp [inherited]

end HealthState

theorem Cluster.settle_matched (cluster : Cluster) {changed : HealthState × Bool}
    (matched : changed.1.Matched) (readings : Readings) :
    (cluster.settle changed readings).1.health.Matched := by
  unfold settle
  split
  · exact (changed.1.clearExpiredEjections_sameKeys readings.second).matched matched
  · exact matched

theorem Cluster.perform_matched (cluster : Cluster) (matched : cluster.health.Matched)
    (readings : Readings) (call : ClusterCall) :
    (cluster.perform readings call).cluster.health.Matched := by
  obtain ⟨counter, selected, same⟩ := cluster.perform_settles readings call
  rw [same]
  apply cluster.settle_matched
  rcases cluster.noted_edits readings call with ⟨endpoints, rfl⟩ | edits
  · exact cluster.health.matched_updateEndpoints endpoints
  · exact edits.sameKeys.matched matched

theorem ClusterSystem.matched_visited (config : Upstream) (now : Instant)
    {steps : List (Step ClusterSystem ClusterAction (Option Endpoint))}
    (isRun : IsRun ClusterSystem.step (ClusterSystem.new config now) steps)
    {system : ClusterSystem} (visits : Visits (ClusterSystem.new config now) steps system) :
    system.cluster.health.Matched := by
  refine isRun.invariant_visited (fun system => system.cluster.health.Matched)
    (HealthState.matched_new config.endpoints) ?_ visits
  intro step accepted matched
  obtain ⟨before, action, after, selected⟩ := step
  change ClusterSystem.step before action = some (after, selected) at accepted
  change after.cluster.health.Matched
  cases action with
  | pass =>
    obtain ⟨_, rfl⟩ := pass_of_accepted accepted
    exact matched
  | call readings call =>
    rw [cluster_of_accepted accepted]
    exact before.cluster.perform_matched matched readings call

def sparePeer : Endpoint :=
  { address := .ip (.v4 127 0 0 2) (.constant 8080), weight := .constant 1 }

/-- The endpoint that was ejected gives way to another, which fails in turn. -/
def replacingActions : List ClusterAction :=
  ejectionActions ++ [.call (.at 1000020) (.updateEndpoints [sparePeer]),
    .call (.at 1000030) (.recordOutcome sparePeer.address .failure)]

def replacedSystem : ClusterSystem :=
  final (ClusterSystem.new ejectingUpstream 0)
    (trace ClusterSystem.step (ClusterSystem.new ejectingUpstream 0) replacingActions)

theorem ClusterSystem.matched_visited_replaced :
    replacedSystem.cluster.health.endpoints = [sparePeer] ∧
      (replacedSystem.cluster.health.statuses.lookup
        (EndpointKey.fromEndpoint sparePeer)).isSome = true :=
  ⟨by decide +kernel, (ClusterSystem.matched_visited ejectingUpstream 0
    (trace_isRun _ _ replacingActions) (visits_final _ _) _).mpr
      ⟨sparePeer, by decide +kernel, rfl⟩⟩

/-! ### What is kept -/

def HealthState.addresses (health : HealthState) : List EndpointAddr :=
  health.endpoints.map fun endpoint => endpoint.address

def HealthState.statusOf (health : HealthState) (address : EndpointAddr) : Option EndpointStatus :=
  health.statuses.lookup (fromAddr address)

/-- An address of both lists has its status still, one of the new list only has the
default. -/
def HealthState.KeepsStatuses (before : HealthState) (endpoints : List Endpoint)
    (after : HealthState) : Prop :=
  ∀ endpoint ∈ endpoints,
    (endpoint.address ∈ before.addresses →
        after.statusOf endpoint.address = before.statusOf endpoint.address) ∧
      (endpoint.address ∉ before.addresses → after.statusOf endpoint.address = some {})

/-- Where the spelling of an address has a status other than the default, the address is
in the old list exactly when the new list spells it once. -/
def HealthState.Transferable (before : HealthState) (endpoints : List Endpoint) : Prop :=
  ∀ endpoint ∈ endpoints, ∀ status, before.statusOf endpoint.address = some status →
    status ≠ {} →
      (endpoint.address ∈ before.addresses ↔
        spellings endpoints (fromAddr endpoint.address) = 1)

namespace HealthState

private theorem statusOf_updateEndpoints (health : HealthState) {endpoints : List Endpoint}
    {endpoint : Endpoint} (listed : endpoint ∈ endpoints) :
    (health.updateEndpoints endpoints).statusOf endpoint.address =
      if spellings endpoints (fromAddr endpoint.address) = 1 then
        some ((health.statusOf endpoint.address).getD {})
      else some {} := by
  have spelled : 0 < spellings endpoints (fromAddr endpoint.address) :=
    spellings_pos.mpr ⟨endpoint, listed, rfl⟩
  unfold statusOf
  rw [lookup_updateEndpoints]
  cases counted : spellings endpoints (fromAddr endpoint.address) with
  | zero => omega
  | succ more =>
    cases more with
    | zero => rfl
    | succ => simp [inherited]

/-- A replacement keeps the statuses exactly when none worth keeping meets a repeated
spelling. -/
theorem updateEndpoints_keeps_iff (health : HealthState) (matched : health.Matched)
    (endpoints : List Endpoint) :
    health.KeepsStatuses endpoints (health.updateEndpoints endpoints) ↔
      health.Transferable endpoints := by
  have tracked : ∀ address ∈ health.addresses, ∃ status, health.statusOf address = some status := by
    intro address listed
    obtain ⟨endpoint, member, rfl⟩ := List.mem_map.mp listed
    exact Option.isSome_iff_exists.mp ((matched _).mpr ⟨endpoint, member, rfl⟩)
  constructor
  · intro keeps endpoint listed status found special
    have moved := health.statusOf_updateEndpoints listed
    obtain ⟨both, fresh⟩ := keeps endpoint listed
    rw [found, Option.getD_some] at moved
    constructor
    · intro known
      by_contra repeated
      rw [if_neg repeated, both known, found] at moved
      exact special (Option.some.inj moved)
    · intro once
      by_contra unknown
      rw [if_pos once, fresh unknown] at moved
      exact special (Option.some.inj moved).symm
  · intro transferable endpoint listed
    rw [health.statusOf_updateEndpoints listed]
    cases found : health.statusOf endpoint.address with
    | none =>
      refine ⟨fun known => ?_, fun _ => by simp⟩
      obtain ⟨status, there⟩ := tracked _ known
      cases found.symm.trans there
    | some status =>
      by_cases plain : status = {}
      · subst plain
        simp
      · have once := transferable endpoint listed status found plain
        refine ⟨fun known => ?_, fun unknown => ?_⟩
        · rw [if_pos (once.mp known), Option.getD_some]
        · rw [if_neg fun single => unknown (once.mpr single)]

end HealthState

def ejectedHealth : HealthState :=
  ((HealthState.new ejectingUpstream.endpoints).recordFailure
    (.ip (.v4 127 0 0 1) (.constant 8080)) 1 1000000 10).1

theorem matched_ejectedHealth : ejectedHealth.Matched :=
  (HealthState.recordFailure_edits _ _ _ _ _).sameKeys.matched (HealthState.matched_new _)

/-- One more endpoint is added, and the first stays ejected. -/
theorem ejection_kept_beside_spare :
    ejectedHealth.KeepsStatuses (ejectingUpstream.endpoints ++ [sparePeer])
      (ejectedHealth.updateEndpoints (ejectingUpstream.endpoints ++ [sparePeer])) := by
  refine (HealthState.updateEndpoints_keeps_iff ejectedHealth matched_ejectedHealth _).mpr ?_
  have once : ∀ endpoint ∈ ejectingUpstream.endpoints ++ [sparePeer],
      ejectedHealth.statusOf endpoint.address = none ∨
        endpoint.address ∈ ejectedHealth.addresses ∧
          HealthState.spellings (ejectingUpstream.endpoints ++ [sparePeer])
            (EndpointKey.fromAddr endpoint.address) = 1 := by
    decide +kernel
  intro endpoint listed status found _
  rcases once endpoint listed with missing | ⟨known, single⟩
  · cases missing.symm.trans found
  · exact iff_of_true known single

/-- The same endpoint listed twice is no longer ejected. -/
theorem ejection_lost_when_repeated :
    ejectedHealth.statusOf (.ip (.v4 127 0 0 1) (.constant 8080)) =
      some { consecutiveErrors := 0, ejectedUntil := some 1000010, activeHealth := .healthy } ∧
    (ejectedHealth.updateEndpoints
        (ejectingUpstream.endpoints ++ ejectingUpstream.endpoints)).statusOf
      (.ip (.v4 127 0 0 1) (.constant 8080)) = some {} := by
  constructor <;> decide +kernel

end Pavis.Upstream
