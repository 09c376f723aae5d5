/-
The endpoints of a cluster: their health, the published selection state and the
weighted choice among them.

A call reads the clock at most three times, and the readings of one call do not go
backwards. Weights are summed as the release build sums them.
-/

import Pavis.Config.Upstream
import Pavis.Library.KeyedMap

namespace Pavis.Upstream

open ByteText Config KeyedMap

/-- Nanoseconds of the monotonic clock. -/
abbrev Instant := Nat

abbrev EndpointKey := Text

def EndpointKey.fromAddr : EndpointAddr → EndpointKey
  | .ip address port => address.display ++ literal ":" ++ decimal port.value
  | .dns host port => host ++ literal ":" ++ decimal port.value

def EndpointKey.fromEndpoint (endpoint : Endpoint) : EndpointKey :=
  fromAddr endpoint.address

inductive ActiveHealth where
  | healthy
  | unhealthy
  deriving DecidableEq

structure EndpointStatus where
  consecutiveErrors : Nat := 0
  ejectedUntil : Option Instant := none
  activeHealth : ActiveHealth := .healthy
  deriving DecidableEq

structure HealthState where
  endpoints : List Endpoint
  statuses : Map EndpointKey EndpointStatus

namespace HealthState

def insertDefault (statuses : Map EndpointKey EndpointStatus) (endpoint : Endpoint) :
    Map EndpointKey EndpointStatus :=
  statuses.insert (EndpointKey.fromEndpoint endpoint) {}

def new (endpoints : List Endpoint) : HealthState :=
  { endpoints := endpoints, statuses := endpoints.foldl insertDefault ∅ }

/-- A status leaves the old map as it enters the new one. -/
def moveStatus (maps : Map EndpointKey EndpointStatus × Map EndpointKey EndpointStatus)
    (endpoint : Endpoint) : Map EndpointKey EndpointStatus × Map EndpointKey EndpointStatus :=
  let key := EndpointKey.fromEndpoint endpoint
  (maps.1.erase key, maps.2.insert key ((maps.1.lookup key).getD {}))

def updateEndpoints (health : HealthState) (endpoints : List Endpoint) : HealthState :=
  { endpoints := endpoints, statuses := (endpoints.foldl moveStatus (health.statuses, ∅)).2 }

/-- The second component tells whether the change calls for a refresh. -/
def markActiveHealth (health : HealthState) (endpoint : EndpointAddr) (healthy : Bool) :
    HealthState × Bool :=
  let key := EndpointKey.fromAddr endpoint
  match health.statuses.lookup key with
  | none => (health, false)
  | some status =>
    let next := if healthy then ActiveHealth.healthy else ActiveHealth.unhealthy
    if status.activeHealth = next then (health, false)
    else
      ({ health with
          statuses := health.statuses.insert key { status with activeHealth := next } }, true)

def recordSuccess (health : HealthState) (endpoint : EndpointAddr) : HealthState × Bool :=
  let key := EndpointKey.fromAddr endpoint
  match health.statuses.lookup key with
  | none => (health, false)
  | some status =>
    if status.consecutiveErrors = 0 then (health, false)
    else
      ({ health with
          statuses := health.statuses.insert key { status with consecutiveErrors := 0 } }, true)

def recordFailure (health : HealthState) (endpoint : EndpointAddr) (threshold ejectFor : Nat)
    (now : Instant) : HealthState × Bool :=
  let key := EndpointKey.fromAddr endpoint
  match health.statuses.lookup key with
  | none => (health, false)
  | some status =>
    let errors := min (status.consecutiveErrors + 1) (2 ^ 32 - 1)
    if threshold ≤ errors ∧ status.ejectedUntil = none then
      ({ health with
          statuses := health.statuses.insert key
            { status with consecutiveErrors := 0, ejectedUntil := some (now + ejectFor) } }, true)
    else
      ({ health with
          statuses := health.statuses.insert key { status with consecutiveErrors := errors } },
        false)

end HealthState

def EndpointStatus.expired (now : Instant) (status : EndpointStatus) : Bool :=
  status.ejectedUntil.any fun deadline => deadline ≤ now

def EndpointStatus.clearExpired (now : Instant) (status : EndpointStatus) : EndpointStatus :=
  if status.expired now then { status with ejectedUntil := none, consecutiveErrors := 0 }
  else status

def EndpointStatus.isEligible (now : Instant) (status : EndpointStatus) : Bool :=
  status.activeHealth = .healthy && status.ejectedUntil.all fun deadline => deadline ≤ now

namespace HealthState

def clearExpiredEjections (health : HealthState) (now : Instant) : HealthState × Bool :=
  ({ health with statuses := mapValues (EndpointStatus.clearExpired now) health.statuses },
    anyValue (EndpointStatus.expired now) health.statuses)

/-- An endpoint without a status is eligible. -/
def eligibleEndpoints (health : HealthState) (now : Instant) : List Endpoint :=
  health.endpoints.filter fun endpoint =>
    (health.statuses.lookup (EndpointKey.fromEndpoint endpoint)).all
      (EndpointStatus.isEligible now)

end HealthState

structure ClusterState where
  endpoints : List Endpoint
  cumulativeWeights : List Nat
  totalWeight : Nat

/-- The running sums, and the sum they end with. -/
def cumulate (sum : Nat) : List Endpoint → List Nat × Nat
  | [] => ([], sum)
  | endpoint :: rest =>
    let sum := (sum + endpoint.weight.value) % 2 ^ 32
    let later := cumulate sum rest
    (sum :: later.1, later.2)

def buildStateParts (endpoints : List Endpoint) : ClusterState :=
  { endpoints := endpoints
    cumulativeWeights := (cumulate 0 endpoints).1
    totalWeight := (cumulate 0 endpoints).2 }

/-- The halving loop of the slice search; its length bounds the number of rounds. -/
def searchBase (weights : List Nat) (pick : Nat) : Nat → Nat → Nat → Nat
  | 0, base, _ => base
  | rounds + 1, base, size =>
    if size ≤ 1 then base
    else
      let half := size / 2
      let mid := base + half
      searchBase weights pick rounds (if weights[mid]?.any (· ≤ pick) then mid else base)
        (size - half)

/-- The search never meets an equal element. -/
def binarySearch (weights : List Nat) (pick : Nat) : Nat :=
  if weights.length = 0 then 0
  else
    let base := searchBase weights pick weights.length 0 weights.length
    if weights[base]?.any (· ≤ pick) then base + 1 else base

def findIndex (cumulativeWeights : List Nat) (pick : Nat) : Nat :=
  min (binarySearch cumulativeWeights pick) (cumulativeWeights.length - 1)

/-- The chosen index and the counter afterwards. A random draw is reduced to its range. -/
def selectIndex (lb : LoadBalancer) (state : ClusterState) (counter draw : Nat) : Nat × Nat :=
  if state.endpoints = [] ∨ state.totalWeight = 0 then (0, counter)
  else
    match lb with
    | .roundRobin =>
      (findIndex state.cumulativeWeights (counter % 2 ^ 32 % state.totalWeight),
        (counter + 1) % 2 ^ 64)
    | .random | .leastRequest =>
      (findIndex state.cumulativeWeights (draw % state.totalWeight), counter)

@[simp] theorem cumulate_length (sum : Nat) (endpoints : List Endpoint) :
    (cumulate sum endpoints).1.length = endpoints.length := by
  induction endpoints generalizing sum with
  | nil => rfl
  | cons endpoint rest ih =>
    change (cumulate _ rest).1.length + 1 = rest.length + 1
    rw [ih]

@[simp] theorem buildStateParts_endpoints (endpoints : List Endpoint) :
    (buildStateParts endpoints).endpoints = endpoints := rfl

private theorem findIndex_lt {cumulativeWeights : List Nat} (nonempty : cumulativeWeights ≠ [])
    (pick : Nat) : findIndex cumulativeWeights pick < cumulativeWeights.length := by
  have positive := List.length_pos_of_ne_nil nonempty
  unfold findIndex
  omega

theorem selectIndex_lt (lb : LoadBalancer) {endpoints : List Endpoint}
    (nonempty : endpoints ≠ []) (counter draw : Nat) :
    (selectIndex lb (buildStateParts endpoints) counter draw).1 < endpoints.length := by
  have weighted : (buildStateParts endpoints).cumulativeWeights.length = endpoints.length :=
    cumulate_length 0 endpoints
  have positive := List.length_pos_of_ne_nil nonempty
  have listed : (buildStateParts endpoints).cumulativeWeights ≠ [] :=
    List.ne_nil_of_length_pos (by omega)
  unfold selectIndex
  split
  · exact positive
  · rw [← weighted]
    cases lb with
    | roundRobin | random | leastRequest => exact findIndex_lt listed _

/-- The instants one call can read. The first is its own, the other two are those
of the refresh it may end with. -/
structure Readings where
  first : Instant
  second : Instant
  third : Instant
  ordered : first ≤ second ∧ second ≤ third

def Readings.at (now : Instant) : Readings := ⟨now, now, now, Nat.le_refl _, Nat.le_refl _⟩

inductive UpstreamOutcome where
  | success
  | failure
  deriving DecidableEq

structure Cluster where
  config : Upstream
  rrCounter : Nat
  state : ClusterState
  health : HealthState

namespace Cluster

def new (config : Upstream) (now : Instant) : Cluster :=
  let health := HealthState.new config.endpoints
  { config := config
    rrCounter := 0
    state := buildStateParts (health.eligibleEndpoints now)
    health := health }

def refreshStateFromHealth (cluster : Cluster) (health : HealthState) (readings : Readings) :
    Cluster :=
  let health := (health.clearExpiredEjections readings.second).1
  { cluster with
    health := health
    state := buildStateParts (health.eligibleEndpoints readings.third) }

/-- A changed health state is published at once. The second component tells
whether it was. -/
def settle (cluster : Cluster) (changed : HealthState × Bool) (readings : Readings) :
    Cluster × Bool :=
  if changed.2 then (cluster.refreshStateFromHealth changed.1 readings, true)
  else ({ cluster with health := changed.1 }, false)

def updateEndpoints (cluster : Cluster) (endpoints : List Endpoint) (readings : Readings) :
    Cluster × Bool :=
  cluster.settle (cluster.health.updateEndpoints endpoints, true) readings

def currentEndpoints (cluster : Cluster) : List Endpoint := cluster.health.endpoints

def setActiveHealth (cluster : Cluster) (endpoint : EndpointAddr) (healthy : Bool)
    (readings : Readings) : Cluster × Bool :=
  match cluster.config.healthCheck with
  | .disabled => (cluster, false)
  | .enabled _ _ _ => cluster.settle (cluster.health.markActiveHealth endpoint healthy) readings

def recordOutcome (cluster : Cluster) (endpoint : EndpointAddr) (outcome : UpstreamOutcome)
    (readings : Readings) : Cluster × Bool :=
  match cluster.config.outlierDetection with
  | .disabled => (cluster, false)
  | .enabled consecutiveErrors ejectDuration =>
    match outcome with
    | .success => cluster.settle (cluster.health.recordSuccess endpoint) readings
    | .failure =>
      cluster.settle
        (cluster.health.recordFailure endpoint consecutiveErrors.value
          (ejectDuration.value * 1000000) readings.first)
        readings

def refreshExpiredEjections (cluster : Cluster) (readings : Readings) : Cluster × Bool :=
  cluster.settle (cluster.health.clearExpiredEjections readings.first) readings

def pickEndpoint (cluster : Cluster) (draw : Nat) : Cluster × Option Endpoint :=
  if cluster.state.endpoints = [] then (cluster, none)
  else
    let chosen := selectIndex cluster.config.balancer cluster.state cluster.rrCounter draw
    ({ cluster with rrCounter := chosen.2 }, cluster.state.endpoints[chosen.1]?)

theorem pickEndpoint_kept (cluster : Cluster) (draw : Nat) :
    (cluster.pickEndpoint draw).1 =
      { cluster with rrCounter := (cluster.pickEndpoint draw).1.rrCounter } := by
  unfold pickEndpoint
  split <;> rfl

end Cluster

inductive ClusterCall where
  | updateEndpoints (endpoints : List Endpoint)
  | setActiveHealth (endpoint : EndpointAddr) (healthy : Bool)
  | recordOutcome (endpoint : EndpointAddr) (outcome : UpstreamOutcome)
  | selectEndpoint (draw : Nat)

/-- What a call made of the cluster, whether it refreshed the state and what it
selected. -/
structure CallResult where
  cluster : Cluster
  refreshed : Bool
  selected : Option Endpoint

def Cluster.selectEndpoint (cluster : Cluster) (draw : Nat) (readings : Readings) : CallResult :=
  let cleared := cluster.refreshExpiredEjections readings
  let picked := cleared.1.pickEndpoint draw
  { cluster := picked.1, refreshed := cleared.2, selected := picked.2 }

def CallResult.unit (result : Cluster × Bool) : CallResult :=
  { cluster := result.1, refreshed := result.2, selected := none }

def Cluster.perform (cluster : Cluster) (readings : Readings) : ClusterCall → CallResult
  | .updateEndpoints endpoints => .unit (cluster.updateEndpoints endpoints readings)
  | .setActiveHealth endpoint healthy => .unit (cluster.setActiveHealth endpoint healthy readings)
  | .recordOutcome endpoint outcome => .unit (cluster.recordOutcome endpoint outcome readings)
  | .selectEndpoint draw => cluster.selectEndpoint draw readings

/-- The health state a call arrives at before it is published, and whether it is. -/
def Cluster.noted (cluster : Cluster) (readings : Readings) : ClusterCall → HealthState × Bool
  | .updateEndpoints endpoints => (cluster.health.updateEndpoints endpoints, true)
  | .setActiveHealth endpoint healthy =>
    match cluster.config.healthCheck with
    | .disabled => (cluster.health, false)
    | .enabled _ _ _ => cluster.health.markActiveHealth endpoint healthy
  | .recordOutcome endpoint outcome =>
    match cluster.config.outlierDetection with
    | .disabled => (cluster.health, false)
    | .enabled consecutiveErrors ejectDuration =>
      match outcome with
      | .success => cluster.health.recordSuccess endpoint
      | .failure =>
        cluster.health.recordFailure endpoint consecutiveErrors.value
          (ejectDuration.value * 1000000) readings.first
  | .selectEndpoint _ => cluster.health.clearExpiredEjections readings.first

theorem Cluster.perform_settles (cluster : Cluster) (readings : Readings) (call : ClusterCall) :
    ∃ counter selected, cluster.perform readings call =
      { cluster := { (cluster.settle (cluster.noted readings call) readings).1 with
          rrCounter := counter }
        refreshed := (cluster.settle (cluster.noted readings call) readings).2
        selected := selected } := by
  cases call with
  | updateEndpoints => exact ⟨_, none, rfl⟩
  | setActiveHealth =>
    unfold perform setActiveHealth noted
    cases cluster.config.healthCheck with
    | disabled | enabled => exact ⟨_, none, rfl⟩
  | recordOutcome _ outcome =>
    unfold perform recordOutcome noted
    cases cluster.config.outlierDetection with
    | disabled => exact ⟨_, none, rfl⟩
    | enabled =>
      cases outcome with
      | success | failure => exact ⟨_, none, rfl⟩
  | selectEndpoint draw =>
    unfold perform selectEndpoint
    dsimp only
    rw [pickEndpoint_kept]
    exact ⟨_, _, rfl⟩

theorem Cluster.perform_config (cluster : Cluster) (readings : Readings) (call : ClusterCall) :
    (cluster.perform readings call).cluster.config = cluster.config := by
  obtain ⟨counter, selected, same⟩ := cluster.perform_settles readings call
  rw [same]
  unfold settle
  split <;> rfl

end Pavis.Upstream
