/-
Coherence of a cluster over any sequence of calls.

A run keeps, next to the cluster, the clock and the health state the last refresh
published.
-/

import Pavis.Library.LabelledRun
import Pavis.Upstream.Cluster

namespace Pavis.Upstream

open Config KeyedMap LabelledRun
open EndpointKey (fromEndpoint)

structure Refresh where
  health : HealthState
  instant : Instant

structure ClusterSystem where
  cluster : Cluster
  clock : Instant
  lastRefresh : Refresh

inductive ClusterAction where
  | pass (now : Instant)
  | call (readings : Readings) (call : ClusterCall)

def ClusterSystem.new (config : Upstream) (now : Instant) : ClusterSystem :=
  { cluster := Cluster.new config now
    clock := now
    lastRefresh := { health := HealthState.new config.endpoints, instant := now } }

/-- The clock is left at the last reading of the call. -/
def ClusterSystem.after (system : ClusterSystem) (readings : Readings) (result : CallResult) :
    ClusterSystem :=
  if result.refreshed then
    { cluster := result.cluster
      clock := readings.third
      lastRefresh := { health := result.cluster.health, instant := readings.third } }
  else { system with cluster := result.cluster, clock := readings.first }

def ClusterSystem.step : Machine ClusterSystem ClusterAction (Option Endpoint) :=
  fun system action =>
    match action with
    | .pass now => if system.clock ≤ now then some ({ system with clock := now }, none) else none
    | .call readings call =>
      if system.clock ≤ readings.first then
        let result := system.cluster.perform readings call
        some (system.after readings result, result.selected)
      else none

def weightSum (endpoints : List Endpoint) : Nat :=
  (endpoints.map fun endpoint => endpoint.weight.value).sum

def prefixSums (endpoints : List Endpoint) : List Nat :=
  (List.range endpoints.length).map fun index => weightSum (endpoints.take (index + 1))

def HealthState.available (health : HealthState) (now : Instant) (endpoint : Endpoint) : Bool :=
  (health.statuses.lookup (fromEndpoint endpoint)).any fun status =>
    status.activeHealth = .healthy && status.ejectedUntil.all fun deadline => deadline ≤ now

/-- The published state lists the current endpoints that were available at the
last refresh, with their weights. -/
structure ClusterSystem.Published (system : ClusterSystem) : Prop where
  earlier : system.lastRefresh.instant ≤ system.clock
  current : system.lastRefresh.health.endpoints = system.cluster.currentEndpoints
  listed : system.cluster.state.endpoints =
    system.cluster.currentEndpoints.filter
      (system.lastRefresh.health.available system.lastRefresh.instant)
  weighed : weightSum system.cluster.currentEndpoints < 2 ^ 32 →
    system.cluster.state.cumulativeWeights = prefixSums system.cluster.state.endpoints ∧
      system.cluster.state.totalWeight = weightSum system.cluster.state.endpoints

theorem weightSum_cons (endpoint : Endpoint) (rest : List Endpoint) :
    weightSum (endpoint :: rest) = endpoint.weight.value + weightSum rest := by
  simp [weightSum]

private theorem weightSum_filter_le (keep : Endpoint → Bool) (endpoints : List Endpoint) :
    weightSum (endpoints.filter keep) ≤ weightSum endpoints := by
  induction endpoints with
  | nil => exact Nat.le_refl _
  | cons =>
    rw [weightSum_cons, List.filter_cons]
    split
    · rw [weightSum_cons]
      omega
    · omega

private theorem cumulate_eq (sum : Nat) (endpoints : List Endpoint)
    (small : sum + weightSum endpoints < 2 ^ 32) :
    (cumulate sum endpoints).1 = (prefixSums endpoints).map (sum + ·) ∧
      (cumulate sum endpoints).2 = sum + weightSum endpoints := by
  induction endpoints generalizing sum with
  | nil => exact ⟨rfl, rfl⟩
  | cons endpoint rest ih =>
    rw [weightSum_cons] at small ⊢
    have exact : (sum + endpoint.weight.value) % 2 ^ 32 = sum + endpoint.weight.value :=
      Nat.mod_eq_of_lt (by omega)
    obtain ⟨sums, total⟩ := ih (sum + endpoint.weight.value) (by omega)
    unfold cumulate
    simp only [exact, sums, total]
    constructor
    · simp only [prefixSums, List.length_cons, List.range_succ_eq_map, List.map_cons,
        List.map_map, Function.comp_def, List.take_succ_cons, weightSum_cons]
      simp [weightSum, Nat.add_assoc]
    · omega

theorem buildStateParts_weighed {endpoints : List Endpoint} (small : weightSum endpoints < 2 ^ 32) :
    (buildStateParts endpoints).cumulativeWeights = prefixSums endpoints ∧
      (buildStateParts endpoints).totalWeight = weightSum endpoints := by
  obtain ⟨sums, total⟩ := cumulate_eq 0 endpoints (by omega)
  simp only [buildStateParts, sums, total, Nat.zero_add, List.map_id', and_self]

def HealthState.Tracked (health : HealthState) : Prop :=
  ∀ endpoint ∈ health.endpoints,
    ∃ status, health.statuses.lookup (fromEndpoint endpoint) = some status

/-- The part of a status that eligibility depends on. -/
def EndpointStatus.standing (status : EndpointStatus) : Option Instant × ActiveHealth :=
  (status.ejectedUntil, status.activeHealth)

structure HealthState.SameStanding (left right : HealthState) : Prop where
  endpoints : left.endpoints = right.endpoints
  statuses : ∀ key, (left.statuses.lookup key).map EndpointStatus.standing =
    (right.statuses.lookup key).map EndpointStatus.standing

namespace HealthState

theorem SameStanding.refl (health : HealthState) : health.SameStanding health :=
  ⟨rfl, fun _ => rfl⟩

theorem SameStanding.trans {first second third : HealthState}
    (left : first.SameStanding second) (right : second.SameStanding third) :
    first.SameStanding third :=
  ⟨left.endpoints.trans right.endpoints, fun key => (left.statuses key).trans (right.statuses key)⟩

theorem SameStanding.tracked {left right : HealthState} (same : left.SameStanding right)
    (tracked : left.Tracked) : right.Tracked := by
  intro endpoint member
  rw [← same.endpoints] at member
  obtain ⟨status, found⟩ := tracked endpoint member
  have standing := same.statuses (fromEndpoint endpoint)
  rw [found] at standing
  obtain ⟨other, foundOther, _⟩ := Option.map_eq_some_iff.mp standing.symm
  exact ⟨other, foundOther⟩

theorem available_of_standing {left right : HealthState} (same : left.SameStanding right)
    (now : Instant) (endpoint : Endpoint) :
    left.available now endpoint = right.available now endpoint := by
  have standing := same.statuses (fromEndpoint endpoint)
  unfold available
  cases foundLeft : left.statuses.lookup (fromEndpoint endpoint) with
  | none =>
    rw [foundLeft] at standing
    rw [Option.map_eq_none_iff.mp standing.symm]
  | some =>
    rw [foundLeft] at standing
    obtain ⟨other, foundRight, agree⟩ := Option.map_eq_some_iff.mp standing.symm
    obtain ⟨deadlines, healths⟩ := Prod.mk.inj agree
    rw [foundRight]
    simp only [Option.any_some, deadlines, healths]

variable {health : HealthState}

theorem eligibleEndpoints_eq (tracked : health.Tracked) (now : Instant) :
    health.eligibleEndpoints now = health.endpoints.filter (health.available now) := by
  apply List.filter_congr
  intro endpoint member
  obtain ⟨status, found⟩ := tracked endpoint member
  simp only [available, found, Option.all_some, Option.any_some, EndpointStatus.isEligible]

theorem SameStanding.of_insert {key : EndpointKey} {status changed : EndpointStatus}
    (found : health.statuses.lookup key = some status)
    (standing : changed.standing = status.standing) :
    health.SameStanding { health with statuses := health.statuses.insert key changed } := by
  constructor
  · rfl
  · intro other
    by_cases same : other = key
    · rw [same, found, AList.lookup_insert]
      exact congrArg some standing.symm
    · rw [AList.lookup_insert_ne same]

theorem tracked_insert (tracked : health.Tracked) (key : EndpointKey) (changed : EndpointStatus) :
    { health with statuses := health.statuses.insert key changed : HealthState }.Tracked := by
  intro endpoint member
  by_cases same : fromEndpoint endpoint = key
  · exact ⟨changed, by rw [same]; exact AList.lookup_insert _⟩
  · obtain ⟨status, found⟩ := tracked endpoint member
    exact ⟨status, (AList.lookup_insert_ne same).trans found⟩

theorem tracked_clear (tracked : health.Tracked) (now : Instant) :
    (health.clearExpiredEjections now).1.Tracked := by
  intro endpoint member
  obtain ⟨status, found⟩ := tracked endpoint member
  refine ⟨status.clearExpired now, ?_⟩
  simp only [clearExpiredEjections, lookup_mapValues, found, Option.map_some]

private theorem tracked_updateEndpoints (health : HealthState) (endpoints : List Endpoint) :
    (health.updateEndpoints endpoints).Tracked := by
  intro endpoint member
  exact lookup_foldl_insert moveStatus Prod.snd fromEndpoint
    (fun maps endpoint => ⟨_, rfl⟩) endpoints (health.statuses, ∅) _
    (Or.inr ⟨endpoint, member, rfl⟩)

theorem tracked_new (endpoints : List Endpoint) : (HealthState.new endpoints).Tracked := by
  intro endpoint member
  exact lookup_foldl_insert insertDefault id fromEndpoint
    (fun statuses endpoint => ⟨{}, rfl⟩) endpoints ∅ _ (Or.inr ⟨endpoint, member, rfl⟩)

/-! ### Steps on the health state -/

/-- A call that asks for no refresh leaves every standing alone. -/
structure Adjusts (health : HealthState) (result : HealthState × Bool) : Prop where
  tracked : health.Tracked → result.1.Tracked
  quiet : result.2 = false → health.SameStanding result.1

/-- What a call that keeps the endpoints can make of the health state. -/
inductive Edits (health : HealthState) : HealthState × Bool → Prop where
  | unchanged : health.Edits (health, false)
  | inserts {key : EndpointKey} {status : EndpointStatus}
      (found : health.statuses.lookup key = some status) (changed : EndpointStatus)
      (refresh : Bool) (standing : refresh = false → changed.standing = status.standing) :
      health.Edits ({ health with statuses := health.statuses.insert key changed }, refresh)
  | clears (now : Instant) : health.Edits (health.clearExpiredEjections now)

theorem markActiveHealth_edits (health : HealthState) (endpoint : EndpointAddr) (healthy : Bool) :
    health.Edits (health.markActiveHealth endpoint healthy) := by
  unfold markActiveHealth
  dsimp only
  split
  · exact .unchanged
  · rename_i found
    generalize (if healthy = true then ActiveHealth.healthy else ActiveHealth.unhealthy) = next
    split
    · exact .unchanged
    · exact .inserts found _ true nofun

private theorem recordSuccess_edits (health : HealthState) (endpoint : EndpointAddr) :
    health.Edits (health.recordSuccess endpoint) := by
  unfold recordSuccess
  dsimp only
  split
  · exact .unchanged
  · rename_i found
    split
    · exact .unchanged
    · exact .inserts found _ true nofun

theorem recordFailure_edits (health : HealthState) (endpoint : EndpointAddr)
    (threshold ejectFor : Nat) (now : Instant) :
    health.Edits (health.recordFailure endpoint threshold ejectFor now) := by
  unfold recordFailure
  dsimp only
  split
  · exact .unchanged
  · rename_i found
    split
    · exact .inserts found _ true nofun
    · exact .inserts found _ false fun _ => rfl

theorem unexpired_of_quiet {now : Instant} (quiet : (health.clearExpiredEjections now).2 = false)
    {key : EndpointKey} {status : EndpointStatus}
    (found : health.statuses.lookup key = some status) : status.expired now = false := by
  cases expired : status.expired now with
  | false => rfl
  | true =>
    have any := (anyValue_iff (EndpointStatus.expired now) health.statuses).mpr
      ⟨key, status, found, expired⟩
    rw [← quiet]
    exact any.symm

private theorem clearExpiredEjections_quiet {now : Instant}
    (quiet : (health.clearExpiredEjections now).2 = false) :
    health.SameStanding (health.clearExpiredEjections now).1 := by
  refine ⟨rfl, ?_⟩
  intro key
  simp only [clearExpiredEjections, lookup_mapValues]
  cases found : health.statuses.lookup key with
  | none => rfl
  | some => simp [EndpointStatus.clearExpired, unexpired_of_quiet quiet found]

theorem Edits.adjusts {result : HealthState × Bool} (edits : health.Edits result) :
    health.Adjusts result := by
  cases edits with
  | unchanged => exact ⟨fun tracked => tracked, fun _ => SameStanding.refl health⟩
  | inserts found changed _ standing =>
    exact ⟨fun tracked => tracked_insert tracked _ changed,
      fun quiet => .of_insert found (standing quiet)⟩
  | clears now => exact ⟨fun tracked => tracked_clear tracked now, clearExpiredEjections_quiet⟩

theorem Edits.endpoints {result : HealthState × Bool} (edits : health.Edits result) :
    result.1.endpoints = health.endpoints := by
  cases edits with
  | unchanged | inserts | clears => rfl

end HealthState

theorem Cluster.noted_edits (cluster : Cluster) (readings : Readings) (call : ClusterCall) :
    (∃ endpoints, call = .updateEndpoints endpoints) ∨
      cluster.health.Edits (cluster.noted readings call) := by
  unfold noted
  cases call with
  | updateEndpoints endpoints => exact .inl ⟨endpoints, rfl⟩
  | setActiveHealth endpoint healthy =>
    cases cluster.config.healthCheck with
    | disabled => exact .inr .unchanged
    | enabled => exact .inr (cluster.health.markActiveHealth_edits endpoint healthy)
  | recordOutcome endpoint outcome =>
    cases cluster.config.outlierDetection with
    | disabled => exact .inr .unchanged
    | enabled =>
      cases outcome with
      | success => exact .inr (cluster.health.recordSuccess_edits endpoint)
      | failure => exact .inr (cluster.health.recordFailure_edits endpoint _ _ _)
  | selectEndpoint => exact .inr (.clears _)

variable {now : Instant}

theorem HealthState.available_clear (health : HealthState) {cleared : Instant}
    (ordered : cleared ≤ now) (endpoint : Endpoint) :
    (health.clearExpiredEjections cleared).1.available now endpoint =
      health.available now endpoint := by
  simp only [available, clearExpiredEjections, lookup_mapValues]
  cases health.statuses.lookup (fromEndpoint endpoint) with
  | none => rfl
  | some status =>
    obtain ⟨errors, ejected, active⟩ := status
    cases ejected with
    | none => rfl
    | some deadline =>
      by_cases expired : deadline ≤ cleared
      · have later : deadline ≤ now := Nat.le_trans expired ordered
        simp [EndpointStatus.clearExpired, EndpointStatus.expired, expired, later]
      · simp [EndpointStatus.clearExpired, EndpointStatus.expired, expired]

theorem HealthState.available_earlier {health : HealthState} {earlier : Instant}
    (quiet : (health.clearExpiredEjections now).2 = false) (ordered : earlier ≤ now)
    (endpoint : Endpoint) : health.available earlier endpoint = health.available now endpoint := by
  unfold available
  cases found : health.statuses.lookup (fromEndpoint endpoint) with
  | none => rfl
  | some status =>
    have unexpired := unexpired_of_quiet quiet found
    obtain ⟨errors, ejected, active⟩ := status
    cases ejected with
    | none => rfl
    | some deadline =>
      have pending : ¬ deadline ≤ now := by
        simpa [EndpointStatus.expired] using unexpired
      have pendingEarlier : ¬ deadline ≤ earlier :=
        fun due => pending (Nat.le_trans due ordered)
      simp [pending, pendingEarlier]

/-- What a call can do to a cluster, with whether it refreshed the state. -/
inductive Cluster.Moves (cluster : Cluster) (readings : Readings) : Cluster → Bool → Prop where
  | refreshes {after : Cluster} (tracked : cluster.health.Tracked → after.health.Tracked)
      (state : after.state = buildStateParts (after.health.eligibleEndpoints readings.third)) :
      cluster.Moves readings after true
  | keeps {after : Cluster} (standing : cluster.health.SameStanding after.health)
      (state : after.state = cluster.state) : cluster.Moves readings after false

theorem Cluster.perform_moves (cluster : Cluster) (readings : Readings) (call : ClusterCall) :
    cluster.Moves readings (cluster.perform readings call).cluster
      (cluster.perform readings call).refreshed := by
  have adjusts : cluster.health.Adjusts (cluster.noted readings call) := by
    rcases cluster.noted_edits readings call with ⟨endpoints, rfl⟩ | edits
    · exact ⟨fun _ => cluster.health.tracked_updateEndpoints endpoints, nofun⟩
    · exact edits.adjusts
  obtain ⟨counter, selected, same⟩ := cluster.perform_settles readings call
  rw [same]
  generalize cluster.noted readings call = changed at adjusts ⊢
  obtain ⟨health, refresh⟩ := changed
  cases refresh with
  | true => exact .refreshes (fun was => HealthState.tracked_clear (adjusts.tracked was) _) rfl
  | false => exact .keeps (adjusts.quiet rfl) rfl

/-! ### Runs -/

/-- The published state is the one of the last refresh, and what eligibility
depends on has not moved since. -/
structure ClusterSystem.Coherent (system : ClusterSystem) : Prop where
  earlier : system.lastRefresh.instant ≤ system.clock
  tracked : system.lastRefresh.health.Tracked
  standing : system.lastRefresh.health.SameStanding system.cluster.health
  state : system.cluster.state =
    buildStateParts (system.lastRefresh.health.eligibleEndpoints system.lastRefresh.instant)

namespace ClusterSystem

theorem coherent_new (config : Upstream) (now : Instant) : (new config now).Coherent where
  earlier := Nat.le_refl now
  tracked := HealthState.tracked_new config.endpoints
  standing := HealthState.SameStanding.refl _
  state := rfl

variable {system : ClusterSystem}

theorem Coherent.published (coherent : system.Coherent) : system.Published := by
  have current : system.lastRefresh.health.endpoints = system.cluster.currentEndpoints :=
    coherent.standing.endpoints
  have listed : system.cluster.state.endpoints =
      system.cluster.currentEndpoints.filter
        (system.lastRefresh.health.available system.lastRefresh.instant) := by
    rw [coherent.state, buildStateParts_endpoints,
      HealthState.eligibleEndpoints_eq coherent.tracked, current]
  refine ⟨coherent.earlier, current, listed, ?_⟩
  intro small
  have below := weightSum_filter_le
    (system.lastRefresh.health.available system.lastRefresh.instant)
    system.cluster.currentEndpoints
  rw [← listed] at below
  rw [coherent.state] at below ⊢
  exact buildStateParts_weighed (Nat.lt_of_le_of_lt below small)

theorem Coherent.after (coherent : system.Coherent) {readings : Readings}
    (ordered : system.clock ≤ readings.first) {result : CallResult}
    (moves : system.cluster.Moves readings result.cluster result.refreshed) :
    (system.after readings result).Coherent := by
  obtain ⟨cluster, refreshed, selected⟩ := result
  cases moves with
  | refreshes tracked state =>
    exact
      { earlier := Nat.le_refl _
        tracked := tracked (coherent.standing.tracked coherent.tracked)
        standing := HealthState.SameStanding.refl _
        state := state }
  | keeps standing state =>
    exact
      { earlier := Nat.le_trans coherent.earlier ordered
        tracked := coherent.tracked
        standing := coherent.standing.trans standing
        state := state.trans coherent.state }

theorem pass_of_accepted {before after : ClusterSystem} {now : Instant} {selected : Option Endpoint}
    (accepted : ClusterSystem.step before (.pass now) = some (after, selected)) :
    before.clock ≤ now ∧ after = { before with clock := now } := by
  obtain ⟨ordered, same⟩ := Option.ite_none_right_eq_some.mp accepted
  cases same
  exact ⟨ordered, rfl⟩

theorem call_of_accepted {before after : ClusterSystem} {readings : Readings}
    {call : ClusterCall} {selected : Option Endpoint}
    (accepted : ClusterSystem.step before (.call readings call) = some (after, selected)) :
    before.clock ≤ readings.first ∧
      after = before.after readings (before.cluster.perform readings call) ∧
      selected = (before.cluster.perform readings call).selected := by
  obtain ⟨ordered, same⟩ := Option.ite_none_right_eq_some.mp accepted
  cases same
  exact ⟨ordered, rfl, rfl⟩

theorem cluster_of_accepted {before after : ClusterSystem} {readings : Readings}
    {call : ClusterCall} {selected : Option Endpoint}
    (accepted : ClusterSystem.step before (.call readings call) = some (after, selected)) :
    after.cluster = (before.cluster.perform readings call).cluster := by
  obtain ⟨_, rfl, _⟩ := call_of_accepted accepted
  unfold ClusterSystem.after
  split <;> rfl

theorem Coherent.step {step : Step ClusterSystem ClusterAction (Option Endpoint)}
    (accepted : step.Accepted ClusterSystem.step) (coherent : step.before.Coherent) :
    step.after.Coherent := by
  obtain ⟨before, action, after, selected⟩ := step
  change ClusterSystem.step before action = some (after, selected) at accepted
  cases action with
  | pass =>
    obtain ⟨ordered, rfl⟩ := pass_of_accepted accepted
    exact { coherent with earlier := Nat.le_trans coherent.earlier ordered }
  | call readings call =>
    obtain ⟨ordered, rfl, _⟩ := call_of_accepted accepted
    exact coherent.after ordered (before.cluster.perform_moves readings call)

theorem Coherent.state_at_selection (coherent : system.Coherent) {readings : Readings}
    (ordered : system.clock ≤ readings.first) (draw : Nat) :
    (system.cluster.refreshExpiredEjections readings).1.state =
      buildStateParts (system.cluster.currentEndpoints.filter (system.cluster.health.available
        (system.after readings
          (system.cluster.perform readings (.selectEndpoint draw))).clock)) := by
  have tracked := coherent.standing.tracked coherent.tracked
  unfold ClusterSystem.after Cluster.perform Cluster.selectEndpoint
    Cluster.refreshExpiredEjections Cluster.settle
  cases quiet : (system.cluster.health.clearExpiredEjections readings.first).2 with
  | true =>
    simp only [if_true, Cluster.refreshStateFromHealth]
    congr 1
    rw [HealthState.eligibleEndpoints_eq
      (HealthState.tracked_clear (HealthState.tracked_clear tracked _) _)]
    apply List.filter_congr
    intro endpoint _
    rw [HealthState.available_clear _ readings.ordered.2,
      HealthState.available_clear _ (Nat.le_trans readings.ordered.1 readings.ordered.2)]
  | false =>
    simp only [Bool.false_eq_true, if_false]
    rw [coherent.state, HealthState.eligibleEndpoints_eq coherent.tracked,
      coherent.standing.endpoints]
    congr 1
    apply List.filter_congr
    intro endpoint _
    rw [HealthState.available_of_standing coherent.standing]
    exact HealthState.available_earlier quiet (Nat.le_trans coherent.earlier ordered) endpoint

end ClusterSystem

theorem Cluster.pickEndpoint_selected (cluster : Cluster) {endpoints : List Endpoint}
    (state : cluster.state = buildStateParts endpoints) (draw : Nat) :
    ((cluster.pickEndpoint draw).2 = none ↔ endpoints = []) ∧
      ∀ endpoint, (cluster.pickEndpoint draw).2 = some endpoint → endpoint ∈ endpoints := by
  unfold pickEndpoint
  rw [state, buildStateParts_endpoints]
  split
  · rename_i empty
    exact ⟨⟨fun _ => empty, fun _ => rfl⟩, fun endpoint chosen => by cases chosen⟩
  · rename_i nonempty
    have within := selectIndex_lt cluster.config.balancer nonempty cluster.rrCounter draw
    constructor
    · rw [List.getElem?_eq_none_iff]
      constructor
      · intro beyond
        omega
      · intro empty
        exact absurd empty nonempty
    · intro endpoint chosen
      exact List.mem_of_getElem? chosen

theorem HealthState.status_of_available {health : HealthState} {endpoint : Endpoint}
    (available : health.available now endpoint = true) :
    ∃ status, health.statuses.lookup (fromEndpoint endpoint) = some status ∧
      status.activeHealth = .healthy ∧
      ∀ deadline, status.ejectedUntil = some deadline → deadline ≤ now := by
  unfold HealthState.available at available
  cases found : health.statuses.lookup (fromEndpoint endpoint) with
  | none =>
    rw [found] at available
    cases available
  | some status =>
    rw [found, Option.any_some, Bool.and_eq_true, decide_eq_true_iff] at available
    obtain ⟨healthy, served⟩ := available
    refine ⟨status, rfl, healthy, ?_⟩
    intro deadline ejected
    rw [ejected, Option.all_some, decide_eq_true_iff] at served
    exact served

/-- After any calls the published state lists the current endpoints available at
the last refresh. A selection fails only when no current endpoint is available,
and otherwise returns one that is. -/
theorem cluster_coherent (config : Upstream) (now : Instant)
    {steps : List (Step ClusterSystem ClusterAction (Option Endpoint))}
    (isRun : IsRun ClusterSystem.step (ClusterSystem.new config now) steps) :
    (∀ system, Visits (ClusterSystem.new config now) steps system → system.Published) ∧
      ∀ step ∈ steps, ∀ readings draw, step.label = .call readings (.selectEndpoint draw) →
        (step.output = none ↔ ∀ endpoint ∈ step.before.cluster.currentEndpoints,
          step.before.cluster.health.available step.after.clock endpoint = false) ∧
        ∀ endpoint, step.output = some endpoint →
          endpoint ∈ step.before.cluster.currentEndpoints ∧
          ∃ status, step.before.cluster.health.statuses.lookup
              (EndpointKey.fromEndpoint endpoint) = some status ∧
            status.activeHealth = .healthy ∧
            ∀ deadline, status.ejectedUntil = some deadline → deadline ≤ step.after.clock := by
  constructor
  · intro system visits
    exact (isRun.invariant_visited ClusterSystem.Coherent (ClusterSystem.coherent_new config now)
      (fun _ => ClusterSystem.Coherent.step) visits).published
  · intro step member readings draw selects
    obtain ⟨index, found⟩ := List.getElem?_of_mem member
    have coherent := isRun.invariant_before ClusterSystem.Coherent
      (ClusterSystem.coherent_new config now) (fun _ => ClusterSystem.Coherent.step) found
    have accepted := isRun.accepted_at found
    unfold Step.Accepted at accepted
    rw [selects] at accepted
    obtain ⟨ordered, after, output⟩ := ClusterSystem.call_of_accepted accepted
    obtain ⟨none_iff, some_mem⟩ := Cluster.pickEndpoint_selected _
      (coherent.state_at_selection ordered draw) draw
    rw [after, output]
    constructor
    · refine none_iff.trans (List.filter_eq_nil_iff.trans ?_)
      simp only [Bool.not_eq_true]
    · intro endpoint chosen
      obtain ⟨current, available⟩ := List.mem_filter.mp (some_mem endpoint chosen)
      exact ⟨current, HealthState.status_of_available available⟩

def ejectingUpstream : Upstream :=
  { id := .constant 1
    name := ByteText.literal "api"
    discovery := .static
    balancer := .roundRobin
    protocol := .h1
    pool :=
      { idle := .disabled
        connect := .disabled
        max := .constant 128
        queue := { capacity := 0, timeoutMs := 0 }
        tcpKeepalive := none
        tcpNodelay := none
        recvBufferSize := none }
    outlierDetection := .enabled (.constant 1) (.constant 1)
    circuitBreaker := .disabled
    healthCheck := .disabled
    tls := .disabled
    endpoints :=
      [{ address := .ip (.v4 127 0 0 1) (.constant 8080)
         weight := .constant 3 }] }

def ejectionActions : List ClusterAction :=
  [ .call (.at 10) (.recordOutcome (.ip (.v4 127 0 0 1) (.constant 8080)) .failure),
    .call (.at 20) (.selectEndpoint 0), .pass 30, .call (.at 1000010) (.selectEndpoint 0) ]

theorem cluster_coherent_ejection :
    (trace ClusterSystem.step (ClusterSystem.new ejectingUpstream 0) ejectionActions).map
        Step.output = [none, none, none, ejectingUpstream.endpoints.head?] ∧
      ∀ system, Visits (ClusterSystem.new ejectingUpstream 0)
        (trace ClusterSystem.step (ClusterSystem.new ejectingUpstream 0) ejectionActions)
        system → system.Published :=
  ⟨by decide +kernel, (cluster_coherent ejectingUpstream 0 (trace_isRun _ _ _)).1⟩

end Pavis.Upstream
