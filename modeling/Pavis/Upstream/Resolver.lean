/-
DNS resolution beside configuration swaps.

A resolver round copies the configuration of every cluster of the current state,
resolves the copies in tasks of their own and gives each result to the cluster of
that name in the state that is current by then.
-/

import Pavis.Library.LabelledRun
import Pavis.Upstream.Materialize

namespace Pavis.Upstream

open ByteText Config Fallible KeyedMap LabelledRun

/-- A failed lookup, or the panic on a zero port. -/
inductive ResolveFailure where
  | lookupFailed (host : Text)
  | zeroPort
  deriving DecidableEq

def resolveDns (lookup : Lookup) (position : Nat) (host : Text) (port : Port) :
    Except ResolveFailure (List SocketAddr) :=
  match lookup position host with
  | none => .error (.lookupFailed host)
  | some addresses => .ok (addresses.map fun ip => { ip := ip, port := port.value })

def endpointPort (address : SocketAddr) : Except ResolveFailure Port :=
  match NonZero.new 16 address.port with
  | none => .error .zeroPort
  | some port => .ok port

def resolvedEndpoint (weight : Weight) (address : SocketAddr) : Except ResolveFailure Endpoint := do
  let port ← endpointPort address
  return { address := .ip address.ip port, weight := weight }

def selectExistingOrFirst (resolved : List SocketAddr) (current : List Endpoint) :
    Option SocketAddr :=
  current.findSome? fun endpoint =>
    match endpoint.address with
    | .ip ip port =>
      let address : SocketAddr := { ip := ip, port := port.value }
      if address ∈ resolved then some address else none
    | .dns _ _ => none

def resolveLogicalDns (config : Upstream) (current : List Endpoint) (lookup : Lookup) :
    Except ResolveFailure (Option (List Endpoint)) :=
  match config.endpoints.zipIdx.find? fun endpoint => endpoint.1.address.isDns with
  | none => .ok none
  | some (endpoint, position) =>
    match endpoint.address with
    | .ip _ _ => .ok none
    | .dns host port => do
      match ← resolveDns lookup position host port with
      | [] => return none
      | first :: others =>
        let selected := (selectExistingOrFirst (first :: others) current).getD first
        let resolved ← resolvedEndpoint endpoint.weight selected
        return some [resolved]

/-- The endpoints of a position, or nothing when a name has no address. -/
def resolveStrictEndpoint (lookup : Lookup) (endpoint : Endpoint) (position : Nat) :
    Except ResolveFailure (Option (List Endpoint)) :=
  match endpoint.address with
  | .ip _ _ => .ok (some [endpoint])
  | .dns host port => do
    match ← resolveDns lookup position host port with
    | [] => return none
    | addresses =>
      let resolved ← addresses.mapM (resolvedEndpoint endpoint.weight)
      return some resolved

def resolveStrictEndpoints (lookup : Lookup) :
    List (Endpoint × Nat) → Except ResolveFailure (Option (List Endpoint))
  | [] => .ok (some [])
  | endpoint :: rest => do
    match ← resolveStrictEndpoint lookup endpoint.1 endpoint.2 with
    | none => return none
    | some resolved =>
      match ← resolveStrictEndpoints lookup rest with
      | none => return none
      | some later => return some (resolved ++ later)

def resolveStrictDns (config : Upstream) (lookup : Lookup) :
    Except ResolveFailure (Option (List Endpoint)) := do
  match ← resolveStrictEndpoints lookup config.endpoints.zipIdx with
  | some [] => return none
  | resolved => return resolved

structure ResolveTask where
  name : Text
  config : Upstream
  current : List Endpoint

structure ResolvedUpdate where
  name : Text
  endpoints : List Endpoint

def resolveUpstream (task : ResolveTask) (lookup : Lookup) : Option ResolvedUpdate :=
  let result :=
    match task.config.discovery with
    | .logical => resolveLogicalDns task.config task.current lookup
    | .strict _ => resolveStrictDns task.config lookup
    | .static => .ok none
  match result with
  | .ok (some endpoints) => some { name := task.name, endpoints := endpoints }
  | .ok none => none
  | .error _ => none

/-- A task's result, with the task it comes from. -/
structure Joined where
  task : ResolveTask
  update : ResolvedUpdate

/-- Every state that was ever stored stays, the last one is current. A round has
tasks that run, results that wait and one result on its way into a state. The
answers are those the DNS has given so far. -/
structure ResolveSystem where
  states : List Manager
  tasks : List ResolveTask
  finished : List Joined
  applying : Option (Nat × Joined)
  answers : List (Text × IpAddr)

inductive ResolveAction where
  | store (lookups : Nat → Lookup) (loadsMaterials : Upstream → Bool) (clock : Clock)
      (upstreams : List Upstream)
  | beginRound
  | finish (task : Nat) (lookup : Lookup)
  | join (result : Nat)
  | apply (readings : Readings)

/-- A call of `update_endpoints` on the cluster of a configuration. -/
structure Installation where
  config : Upstream
  endpoints : List Endpoint
  byResolver : Bool
  deriving DecidableEq

def Manager.spawn (manager : Manager) : List ResolveTask :=
  manager.clusters.entries.filterMap fun entry =>
    if entry.2.config.discovery.isResolved then
      some { name := entry.1, config := entry.2.config, current := entry.2.currentEndpoints }
    else none

def Manager.installations (manager : Manager) : List Installation :=
  manager.clusters.entries.map fun entry =>
    { config := entry.2.config, endpoints := entry.2.currentEndpoints, byResolver := false }

namespace ResolveSystem

def initial (manager : Manager) : ResolveSystem :=
  { states := [manager], tasks := [], finished := [], applying := none, answers := [] }

def current (system : ResolveSystem) : Nat := system.states.length - 1

def cluster (system : ResolveSystem) (state : Nat) (name : Text) : Option Cluster :=
  system.states[state]?.bind fun manager => manager.get name

def store (system : ResolveSystem) (lookups : Nat → Lookup) (upstreams : List Upstream)
    (manager : Manager) : ResolveSystem :=
  { system with
    states := system.states ++ [manager]
    answers := system.answers ++
      upstreams.zipIdx.flatMap fun upstream => (lookups upstream.2).answers upstream.1 }

def finish (system : ResolveSystem) (index : Nat) (task : ResolveTask) (lookup : Lookup) :
    ResolveSystem :=
  { system with
    tasks := system.tasks.eraseIdx index
    finished := system.finished ++
      ((resolveUpstream task lookup).map fun update => { task := task, update := update }).toList
    answers := system.answers ++ lookup.answers task.config }

def install (system : ResolveSystem) (state : Nat) (manager : Manager) (update : ResolvedUpdate)
    (cluster : Cluster) (readings : Readings) : ResolveSystem :=
  { system with
    applying := none
    states := system.states.set state
      { clusters := manager.clusters.insert update.name
          (cluster.updateEndpoints update.endpoints readings).1 } }

def step : Machine ResolveSystem ResolveAction (List Installation) :=
  fun system action =>
    match action with
    | .store lookups loadsMaterials clock upstreams =>
      match Manager.build lookups loadsMaterials clock upstreams with
      | .error _ => none
      | .ok manager => some (system.store lookups upstreams manager, manager.installations)
    | .beginRound =>
      if system.tasks.isEmpty && system.finished.isEmpty && system.applying.isNone then
        system.states[system.current]?.map fun manager =>
          ({ system with tasks := manager.spawn }, [])
      else none
    | .finish index lookup =>
      system.tasks[index]?.map fun task => (system.finish index task lookup, [])
    | .join index =>
      match system.applying, system.finished[index]? with
      | none, some result =>
        some
          ({ system with
            finished := system.finished.eraseIdx index
            applying := some (system.current, result) }, [])
      | _, _ => none
    | .apply readings =>
      match system.applying with
      | none => none
      | some (state, result) =>
        match system.states[state]? with
        | none => none
        | some manager =>
          match manager.get result.update.name with
          | none => some ({ system with applying := none }, [])
          | some cluster =>
            some (system.install state manager result.update cluster readings,
              [{ config := cluster.config
                 endpoints := result.update.endpoints
                 byResolver := true }])

end ResolveSystem

/-! ### What a task resolves its endpoints to -/

theorem resolvedEndpoint_of_port {weight : Weight} {port : Port} {ip : IpAddr} {endpoint : Endpoint}
    (ran : resolvedEndpoint weight { ip := ip, port := port.value } = .ok endpoint) :
    endpoint = { address := .ip ip port, weight := weight } := by
  unfold resolvedEndpoint endpointPort at ran
  rw [NonZero.new_value port] at ran
  cases ran
  rfl

theorem resolveDns_ok {lookup : Lookup} {position : Nat} {host : Text} {port : Port}
    {addresses : List SocketAddr} (ran : resolveDns lookup position host port = .ok addresses) :
    ∃ ips, lookup position host = some ips ∧
      addresses = ips.map fun ip => { ip := ip, port := port.value } := by
  unfold resolveDns at ran
  split at ran
  · cases ran
  · rename_i ips answered
    cases ran
    exact ⟨ips, answered, rfl⟩

theorem selectExistingOrFirst_mem {resolved : List SocketAddr} {current : List Endpoint}
    {address : SocketAddr} (selected : selectExistingOrFirst resolved current = some address) :
    address ∈ resolved := by
  obtain ⟨endpoint, _, found⟩ := List.exists_of_findSome?_eq_some selected
  split at found
  · dsimp only at found
    split at found
    · rename_i member
      cases found
      exact member
    · cases found
  · cases found

section

variable {lookup : Lookup} {config : Upstream}

theorem resolvedEndpoint_derived {endpoint resolved : Endpoint} {position : Nat}
    (listed : (endpoint, position) ∈ config.endpoints.zipIdx) {host : Text} {port : Port}
    (named : endpoint.address = .dns host port) {ips : List IpAddr}
    (answered : lookup position host = some ips) {address : SocketAddr}
    (member : address ∈ ips.map fun ip => { ip := ip, port := port.value })
    (ran : resolvedEndpoint endpoint.weight address = .ok resolved) :
    DerivedFrom (lookup.answers config) config resolved := by
  obtain ⟨ip, known, rfl⟩ := List.mem_map.mp member
  rw [resolvedEndpoint_of_port ran]
  exact DerivedFrom.of_answer listed named answered known

variable {endpoints : List Endpoint}

private theorem resolveLogicalDns_derived {current : List Endpoint}
    (ran : resolveLogicalDns config current lookup = .ok (some endpoints)) :
    ∀ endpoint ∈ endpoints, DerivedFrom (lookup.answers config) config endpoint := by
  unfold resolveLogicalDns at ran
  split at ran
  · cases ran
  · rename_i endpoint position found
    have listed := List.mem_of_find?_eq_some found
    split at ran
    · cases ran
    · rename_i host port named
      obtain ⟨addresses, looked, picked⟩ := bind_eq_ok.mp ran
      obtain ⟨ips, answered, rfl⟩ := resolveDns_ok looked
      split at picked
      · cases picked
      · rename_i first others resolved
        obtain ⟨chosen, ranChosen, same⟩ := bind_eq_ok.mp picked
        cases same
        have member : (selectExistingOrFirst (first :: others) current).getD first ∈
            first :: others := by
          cases selected : selectExistingOrFirst (first :: others) current with
          | none => exact List.mem_cons_self
          | some => exact selectExistingOrFirst_mem selected
        intro installed single
        cases List.mem_singleton.mp single
        exact resolvedEndpoint_derived listed named answered (resolved ▸ member) ranChosen

private theorem resolveStrictEndpoint_derived {endpoint : Endpoint} {position : Nat}
    (listed : (endpoint, position) ∈ config.endpoints.zipIdx)
    (ran : resolveStrictEndpoint lookup endpoint position = .ok (some endpoints)) :
    ∀ endpoint ∈ endpoints, DerivedFrom (lookup.answers config) config endpoint := by
  unfold resolveStrictEndpoint at ran
  split at ran
  · rename_i ip port address
    cases ran
    intro installed single
    cases List.mem_singleton.mp single
    exact Or.inl ⟨List.fst_mem_of_mem_zipIdx listed, by rw [address]; rfl⟩
  · rename_i host port named
    obtain ⟨addresses, looked, picked⟩ := bind_eq_ok.mp ran
    obtain ⟨ips, answered, rfl⟩ := resolveDns_ok looked
    split at picked
    · cases picked
    · obtain ⟨resolved, ranAll, same⟩ := bind_eq_ok.mp picked
      cases same
      intro installed member
      obtain ⟨address, answeredAddress, ranOne⟩ :=
        exists_of_mem_right (mapM_eq_ok.mp ranAll) member
      exact resolvedEndpoint_derived listed named answered answeredAddress ranOne

private theorem resolveStrictEndpoints_derived {positions : List (Endpoint × Nat)}
    (listed : ∀ endpoint ∈ positions, endpoint ∈ config.endpoints.zipIdx)
    (ran : resolveStrictEndpoints lookup positions = .ok (some endpoints)) :
    ∀ endpoint ∈ endpoints, DerivedFrom (lookup.answers config) config endpoint := by
  induction positions generalizing endpoints with
  | nil =>
    cases ran
    intro endpoint member
    cases member
  | cons position rest ih =>
    obtain ⟨first, ranFirst, later⟩ := bind_eq_ok.mp ran
    cases first with
    | none => cases later
    | some =>
      obtain ⟨others, ranOthers, joined⟩ := bind_eq_ok.mp later
      cases others with
      | none => cases joined
      | some =>
        cases joined
        intro endpoint member
        rcases List.mem_append.mp member with own | other
        · exact resolveStrictEndpoint_derived (listed position List.mem_cons_self) ranFirst
            endpoint own
        · exact ih (fun item within => listed item (List.mem_cons_of_mem position within))
            ranOthers endpoint other

theorem resolveStrictDns_derived (ran : resolveStrictDns config lookup = .ok (some endpoints)) :
    ∀ endpoint ∈ endpoints, DerivedFrom (lookup.answers config) config endpoint := by
  obtain ⟨resolved, ranAll, picked⟩ := bind_eq_ok.mp ran
  split at picked
  · cases picked
  · cases picked
    exact resolveStrictEndpoints_derived (fun _ member => member) ranAll

end

variable {task : ResolveTask}

theorem resolveUpstream_derived {lookup : Lookup} {update : ResolvedUpdate}
    (ran : resolveUpstream task lookup = some update) :
    ∀ endpoint ∈ update.endpoints,
      DerivedFrom (lookup.answers task.config) task.config endpoint := by
  unfold resolveUpstream at ran
  dsimp only at ran
  split at ran
  · rename_i endpoints resolved
    cases ran
    split at resolved
    · exact resolveLogicalDns_derived resolved
    · exact resolveStrictDns_derived resolved
    · cases resolved
  · cases ran
  · cases ran

/-! ### Runs -/

/-- The task is one of a resolved cluster, and its result comes from the
configuration the task copied. -/
structure Joined.Sound (answers : List (Text × IpAddr)) (result : Joined) : Prop where
  resolved : result.task.config.discovery.isResolved = true
  derived : ∀ endpoint ∈ result.update.endpoints, DerivedFrom answers result.task.config endpoint

theorem Joined.Sound.mono {answers more : List (Text × IpAddr)} {result : Joined}
    (sound : result.Sound answers) (grows : ∀ answer ∈ answers, answer ∈ more) :
    result.Sound more :=
  ⟨sound.resolved, fun endpoint member => (sound.derived endpoint member).mono grows⟩

structure ResolveSystem.Sound (system : ResolveSystem) : Prop where
  tasks : ∀ task ∈ system.tasks, task.config.discovery.isResolved = true
  finished : ∀ result ∈ system.finished, result.Sound system.answers
  applying : ∀ state result, system.applying = some (state, result) → result.Sound system.answers

/-- A result is applied to the cluster it was resolved for, or to one configured
like it. -/
def ResolveSystem.AppliesToOwn (step : Step ResolveSystem ResolveAction (List Installation)) :
    Prop :=
  ∀ readings state result cluster, step.label = .apply readings →
    step.before.applying = some (state, result) →
    step.before.cluster state result.update.name = some cluster →
    cluster.config.discovery = result.task.config.discovery ∧
      cluster.config.endpoints = result.task.config.endpoints

/-- The endpoints come from the configuration of the cluster they are given to,
and the resolver leaves a cluster without discovery alone. -/
structure Installation.Isolated (answers : List (Text × IpAddr)) (installation : Installation) :
    Prop where
  derived : ∀ endpoint ∈ installation.endpoints, DerivedFrom answers installation.config endpoint
  resolved : installation.byResolver = true → installation.config.discovery ≠ .static

theorem Manager.spawn_resolved {manager : Manager} (spawned : task ∈ manager.spawn) :
    task.config.discovery.isResolved = true := by
  obtain ⟨entry, _, kept⟩ := List.mem_filterMap.mp spawned
  split at kept
  · rename_i resolved
    cases kept
    exact resolved
  · cases kept

theorem Manager.installations_isolated {lookups : Nat → Lookup}
    {loadsMaterials : Upstream → Bool} {clock : Clock} {upstreams : List Upstream}
    {manager : Manager} (built : build lookups loadsMaterials clock upstreams = .ok manager)
    {installation : Installation} (member : installation ∈ manager.installations) :
    installation.Isolated
      (upstreams.zipIdx.flatMap fun upstream => (lookups upstream.2).answers upstream.1) := by
  obtain ⟨entry, listed, rfl⟩ := List.mem_map.mp member
  have found : manager.get entry.1 = some entry.2 :=
    (List.mem_dlookup_iff manager.clusters.nodupKeys).mpr listed
  obtain ⟨upstream, upstreamListed, _, config, _, resolved⟩ :=
    cluster_of_build built found
  constructor
  · intro endpoint installed
    rw [config]
    apply ((materializeUpstream_ok resolved).2 endpoint installed).mono
    intro answer answered
    exact List.mem_flatMap.mpr ⟨upstream, upstreamListed, answered⟩
  · intro resolver
    cases resolver

theorem DerivedFrom.of_endpoints {answers : List (Text × IpAddr)} {config other : Upstream}
    (same : other.endpoints = config.endpoints) {endpoint : Endpoint}
    (derived : DerivedFrom answers config endpoint) : DerivedFrom answers other endpoint := by
  unfold DerivedFrom at derived ⊢
  rw [same]
  exact derived

theorem ResolveSystem.apply_accepted {before after : ResolveSystem} {readings : Readings}
    {output : List Installation}
    (accepted : ResolveSystem.step before (.apply readings) = some (after, output)) :
    ∃ state result, before.applying = some (state, result) ∧ after.applying = none ∧
      after.tasks = before.tasks ∧ after.finished = before.finished ∧
      after.answers = before.answers ∧
      (output = [] ∨ ∃ cluster, before.cluster state result.update.name = some cluster ∧
        output = [{ config := cluster.config
                    endpoints := result.update.endpoints
                    byResolver := true }]) := by
  unfold ResolveSystem.step at accepted
  dsimp only at accepted
  split at accepted
  · cases accepted
  · rename_i state result applying
    split at accepted
    · cases accepted
    · rename_i manager stored
      split at accepted
      · cases accepted
        exact ⟨state, result, applying, rfl, rfl, rfl, rfl, Or.inl rfl⟩
      · rename_i cluster found
        cases accepted
        refine ⟨state, result, applying, rfl, rfl, rfl, rfl, Or.inr ⟨cluster, ?_, rfl⟩⟩
        unfold ResolveSystem.cluster
        rw [stored]
        exact found

theorem ResolveSystem.Sound.finish {system : ResolveSystem} (sound : system.Sound) {index : Nat}
    (found : system.tasks[index]? = some task) (lookup : Lookup) :
    (system.finish index task lookup).Sound := by
  have grows : ∀ answer ∈ system.answers, answer ∈ system.answers ++ lookup.answers task.config :=
    fun answer known => List.mem_append_left _ known
  constructor
  · intro other member
    exact sound.tasks other (List.mem_of_mem_eraseIdx member)
  · intro result member
    rcases List.mem_append.mp member with earlier | new
    · exact (sound.finished result earlier).mono grows
    · obtain ⟨update, ran, rfl⟩ := Option.map_eq_some_iff.mp (Option.mem_toList.mp new)
      constructor
      · exact sound.tasks task (List.mem_of_getElem? found)
      · intro endpoint installed
        apply (resolveUpstream_derived ran endpoint installed).mono
        intro answer known
        exact List.mem_append_right _ known
  · intro state result applying
    exact (sound.applying state result applying).mono grows

theorem ResolveSystem.Sound.store {system : ResolveSystem} (sound : system.Sound)
    (lookups : Nat → Lookup) (upstreams : List Upstream) (manager : Manager) :
    (system.store lookups upstreams manager).Sound := by
  have grows : ∀ answer ∈ system.answers,
      answer ∈ (system.store lookups upstreams manager).answers :=
    fun answer known => List.mem_append_left _ known
  constructor
  · exact sound.tasks
  · intro result member
    exact (sound.finished result member).mono grows
  · intro state result applying
    exact (sound.applying state result applying).mono grows

variable {step : Step ResolveSystem ResolveAction (List Installation)}

theorem ResolveSystem.Sound.advance (accepted : step.Accepted ResolveSystem.step)
    (sound : step.before.Sound) :
    step.after.Sound ∧ (ResolveSystem.AppliesToOwn step →
      ∀ installation ∈ step.output, installation.Isolated step.after.answers) := by
  obtain ⟨before, action, after, output⟩ := step
  change ResolveSystem.step before action = some (after, output) at accepted
  have silent : output = [] → ∀ installation ∈ output, installation.Isolated after.answers := by
    rintro rfl _ member
    cases member
  cases action with
  | store lookups loadsMaterials clock upstreams =>
    unfold ResolveSystem.step at accepted
    dsimp only at accepted
    split at accepted
    · cases accepted
    · rename_i manager built
      cases accepted
      refine ⟨sound.store lookups upstreams manager, fun _ installation member => ?_⟩
      obtain ⟨derived, resolved⟩ := Manager.installations_isolated built member
      refine ⟨fun endpoint installed => (derived endpoint installed).mono ?_, resolved⟩
      intro answer known
      exact List.mem_append_right _ known
  | beginRound =>
    unfold ResolveSystem.step at accepted
    dsimp only at accepted
    split at accepted
    · obtain ⟨manager, _, same⟩ := Option.map_eq_some_iff.mp accepted
      cases same
      exact ⟨{ sound with tasks := fun task spawned => Manager.spawn_resolved spawned },
        fun _ => silent rfl⟩
    · cases accepted
  | finish index lookup =>
    obtain ⟨task, found, same⟩ := Option.map_eq_some_iff.mp accepted
    cases same
    exact ⟨sound.finish found lookup, fun _ => silent rfl⟩
  | join =>
    unfold ResolveSystem.step at accepted
    dsimp only at accepted
    split at accepted
    · rename_i result _ found
      cases accepted
      refine ⟨⟨sound.tasks, fun other member => ?_, fun state joined applying => ?_⟩,
        fun _ => silent rfl⟩
      · exact sound.finished other (List.mem_of_mem_eraseIdx member)
      · cases applying
        exact sound.finished result (List.mem_of_getElem? found)
    · cases accepted
  | apply readings =>
    obtain ⟨state, result, applying, idle, tasks, finished, answers, outcome⟩ :=
      ResolveSystem.apply_accepted accepted
    refine ⟨⟨tasks ▸ sound.tasks, ?_, fun other joined pending => ?_⟩, fun own => ?_⟩
    · rw [finished, answers]
      exact sound.finished
    · rw [idle] at pending
      cases pending
    · rcases outcome with none | ⟨cluster, found, rfl⟩
      · exact silent none
      · intro installation member
        cases List.mem_singleton.mp member
        obtain ⟨discovery, endpoints⟩ := own readings state result cluster rfl applying found
        have joined := sound.applying state result applying
        constructor
        · intro endpoint installed
          dsimp only
          rw [answers]
          exact (joined.derived endpoint installed).of_endpoints endpoints
        · intro _ static
          have resolved := joined.resolved
          rw [← discovery, static] at resolved
          cases resolved

theorem ResolveSystem.sound_initial (manager : Manager) : (initial manager).Sound := by
  constructor
  · intro task member
    cases member
  · intro result member
    cases member
  · intro state result applying
    cases applying

/-- While every result is applied to a cluster configured like the one it was
resolved for, every installation is isolated. -/
theorem resolution_isolated (manager : Manager)
    {steps : List (Step ResolveSystem ResolveAction (List Installation))}
    (isRun : IsRun ResolveSystem.step (ResolveSystem.initial manager) steps)
    (own : ∀ step ∈ steps, ResolveSystem.AppliesToOwn step) :
    ∀ step ∈ steps, ∀ installation ∈ step.output,
      installation.Isolated step.after.answers := by
  intro step member
  obtain ⟨index, found⟩ := List.getElem?_of_mem member
  have sound := isRun.invariant_before ResolveSystem.Sound (ResolveSystem.sound_initial manager)
    (fun _ accepted sound => (sound.advance accepted).1) found
  exact (sound.advance (isRun.accepted_at found)).2 (own step member)

def apiUpstream (discovery : Discovery) (address : EndpointAddr) : Upstream :=
  { id := .constant 1
    name := literal "api"
    discovery := discovery
    balancer := .roundRobin
    protocol := .h1
    pool :=
      { idle := .disabled
        connect := .disabled
        max := .constant 128
        queue := { capacity := 0, timeoutMs := 0 }
        tcpKeepalive := none
        tcpNodelay := none
        recvBufferSize := none }
    outlierDetection := .disabled
    circuitBreaker := .disabled
    healthCheck := .disabled
    tls := .disabled
    endpoints := [{ address := address, weight := .constant 1 }] }

def namedApi : Upstream :=
  apiUpstream .logical (.dns (literal "old.example") (.constant 80))

def fixedApi : Upstream :=
  apiUpstream .static (.ip (.v4 10 0 0 1) (.constant 443))

def oldLookup : Lookup :=
  fun _ host => if host = literal "old.example" then some [.v4 192 0 2 7] else none

def quietClock : Readings := .at 0

def storeUpstream (upstream : Upstream) : ResolveAction :=
  .store (fun _ => oldLookup) (fun _ => true) (fun _ => quietClock) [upstream]

def swapDuringRound : List ResolveAction :=
  [ storeUpstream namedApi, .beginRound, storeUpstream fixedApi, .finish 0 oldLookup, .join 0,
    .apply quietClock ]

def emptyManager : Manager := { clusters := ∅ }

def strayInstallation : Installation :=
  { config := fixedApi
    endpoints :=
      [{ address := .ip (.v4 192 0 2 7) (.constant 80)
         weight := .constant 1 }]
    byResolver := true }

theorem swapped_cluster_resolved_from_old_configuration :
    ∃ step ∈ trace ResolveSystem.step (ResolveSystem.initial emptyManager) swapDuringRound,
      step.output = [strayInstallation] ∧
        ¬ strayInstallation.Isolated step.after.answers := by
  have applied : (trace ResolveSystem.step (ResolveSystem.initial emptyManager)
      swapDuringRound).getLast?.map Step.output = some [strayInstallation] := by
    decide +kernel
  obtain ⟨step, last, output⟩ := Option.map_eq_some_iff.mp applied
  refine ⟨step, List.mem_of_getLast? last, output, ?_⟩
  intro isolated
  exact isolated.resolved rfl rfl

def swapAfterRound : List ResolveAction :=
  [ storeUpstream namedApi, .beginRound, .finish 0 oldLookup, .join 0, .apply quietClock,
    storeUpstream fixedApi ]

/-- The result on its way into a state, if any, is for a cluster configured like
its task. -/
def ResolveSystem.headsForOwn (system : ResolveSystem) : Bool :=
  system.applying.all fun pending =>
    (system.cluster pending.1 pending.2.update.name).all fun cluster =>
      decide (cluster.config.discovery = pending.2.task.config.discovery ∧
        cluster.config.endpoints = pending.2.task.config.endpoints)

theorem ResolveSystem.AppliesToOwn.of_headsForOwn (heads : step.before.headsForOwn = true) :
    ResolveSystem.AppliesToOwn step := by
  intro readings state result cluster _ applying found
  unfold ResolveSystem.headsForOwn at heads
  rw [applying, Option.all_some, found, Option.all_some] at heads
  exact of_decide_eq_true heads

theorem resolution_isolated_swapAfterRound :
    (∀ step ∈ trace ResolveSystem.step (ResolveSystem.initial emptyManager) swapAfterRound,
      ResolveSystem.AppliesToOwn step) ∧
    ∀ step ∈ trace ResolveSystem.step (ResolveSystem.initial emptyManager) swapAfterRound,
      ∀ installation ∈ step.output, installation.Isolated step.after.answers := by
  have checked : (trace ResolveSystem.step (ResolveSystem.initial emptyManager)
      swapAfterRound).all (fun step => step.before.headsForOwn) = true := by
    decide +kernel
  have own : ∀ step ∈ trace ResolveSystem.step (ResolveSystem.initial emptyManager)
      swapAfterRound, ResolveSystem.AppliesToOwn step :=
    fun step member => .of_headsForOwn (List.all_eq_true.mp checked step member)
  exact ⟨own, resolution_isolated emptyManager (trace_isRun _ _ _) own⟩

end Pavis.Upstream
