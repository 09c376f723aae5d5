/-
Resolution at startup and by the periodic resolver.

Under answers that do not change a name stands for one list of endpoints, and both
implementations are compared with that meaning.
-/

import Pavis.Upstream.Resolver

namespace Pavis.Upstream

open ByteText Config Fallible KeyedMap

def Lookup.fixed (answers : Text → List IpAddr) : Lookup := fun _ host => some (answers host)

def expandEndpoint (answers : Text → List IpAddr) (endpoint : Endpoint) : List Endpoint :=
  match endpoint.address with
  | .ip _ _ => [endpoint]
  | .dns host port =>
    (answers host).map fun ip => { address := .ip ip port, weight := endpoint.weight }

section

variable {answers : Text → List IpAddr}

theorem resolveDnsOnce_fixed (answered : ∀ host, answers host ≠ []) (position : Nat) (host : Text)
    (port : Port) :
    resolveDnsOnce (.fixed answers) position host port =
      .ok ((answers host).map fun ip => { ip := ip, port := port.value }) := by
  unfold resolveDnsOnce Lookup.fixed
  cases known : answers host with
  | nil => exact absurd known (answered host)
  | cons => rfl

theorem materializeEndpoint_fixed (answered : ∀ host, answers host ≠ []) (endpoint : Endpoint)
    (position : Nat) :
    materializeEndpoint (.fixed answers) endpoint position =
      .ok (expandEndpoint answers endpoint) := by
  obtain ⟨address, weight⟩ := endpoint
  cases address with
  | ip => rfl
  | dns =>
    unfold materializeEndpoint expandEndpoint
    dsimp only
    rw [resolveDnsOnce_fixed answered, ok_bind, List.map_map]
    rfl

theorem resolvedEndpoint_port (weight : Weight) (ip : IpAddr) (port : Port) :
    resolvedEndpoint weight { ip := ip, port := port.value } =
      .ok { address := .ip ip port, weight := weight } := by
  unfold resolvedEndpoint endpointPort
  rw [NonZero.new_value port]
  rfl

theorem resolveStrictEndpoint_fixed (answered : ∀ host, answers host ≠ []) (endpoint : Endpoint)
    (position : Nat) :
    resolveStrictEndpoint (.fixed answers) endpoint position =
      .ok (some (expandEndpoint answers endpoint)) := by
  obtain ⟨address, weight⟩ := endpoint
  cases address with
  | ip => rfl
  | dns host port =>
    have converted : ((answers host).map fun ip => ({ ip := ip, port := port.value } :
        SocketAddr)).mapM (resolvedEndpoint weight) =
          .ok ((answers host).map fun ip => { address := .ip ip port, weight := weight }) := by
      rw [mapM_eq_ok, List.forall₂_map_left_iff, List.forall₂_map_right_iff,
        List.forall₂_same]
      intro ip _
      exact resolvedEndpoint_port weight ip port
    unfold resolveStrictEndpoint expandEndpoint resolveDns Lookup.fixed
    dsimp only
    rw [ok_bind]
    cases known : answers host with
    | nil => exact absurd known (answered host)
    | cons =>
      rw [known, List.map_cons] at converted
      rw [List.map_cons]
      dsimp only
      rw [converted]
      rfl

private theorem resolveStrictEndpoints_fixed (answered : ∀ host, answers host ≠ [])
    (positions : List (Endpoint × Nat)) :
    resolveStrictEndpoints (.fixed answers) positions =
      .ok (some (positions.flatMap fun endpoint => expandEndpoint answers endpoint.1)) := by
  induction positions with
  | nil => rfl
  | cons endpoint rest ih =>
    unfold resolveStrictEndpoints
    rw [resolveStrictEndpoint_fixed answered, ok_bind]
    dsimp only
    rw [ih]
    rfl

theorem materializeAllEndpoints_fixed (answered : ∀ host, answers host ≠ []) {upstream : Upstream}
    {installed : List Endpoint}
    (ran : materializeAllEndpoints (.fixed answers) upstream = .ok installed) :
    installed =
      upstream.endpoints.zipIdx.flatMap fun endpoint => expandEndpoint answers endpoint.1 := by
  obtain ⟨groups, looked, joined⟩ := bind_eq_ok.mp ran
  have paired : groups = upstream.endpoints.zipIdx.map fun endpoint =>
      expandEndpoint answers endpoint.1 := by
    have expected : upstream.endpoints.zipIdx.mapM (fun endpoint =>
        materializeEndpoint (.fixed answers) endpoint.1 endpoint.2) =
          .ok (upstream.endpoints.zipIdx.map fun endpoint =>
            expandEndpoint answers endpoint.1) := by
      rw [mapM_eq_ok, List.forall₂_map_right_iff, List.forall₂_same]
      intro endpoint _
      exact materializeEndpoint_fixed answered endpoint.1 endpoint.2
    rw [expected] at looked
    cases looked
    rfl
  split at joined
  · cases joined
  · cases joined
    rw [paired, List.flatMap_def]

private theorem find?_zipIdx_fst {α : Type} (test : α → Bool) (items : List α) :
    (items.zipIdx.find? fun item => test item.1).map Prod.fst = items.find? test := by
  have mapped := List.find?_map (p := test) (f := Prod.fst) (l := items.zipIdx)
  rw [List.zipIdx_map_fst] at mapped
  exact mapped.symm

private theorem mem_resolved_iff (ips : List IpAddr) (port : Port) (own : IpAddr) (ownPort : Port) :
    ({ ip := own, port := ownPort.value } : SocketAddr) ∈
        ips.map (fun ip => ({ ip := ip, port := port.value } : SocketAddr)) ↔
      ownPort = port ∧ own ∈ ips := by
  rw [List.mem_map]
  constructor
  · rintro ⟨ip, member, same⟩
    cases ownPort
    cases port
    cases same
    exact ⟨rfl, member⟩
  · rintro ⟨rfl, member⟩
    exact ⟨own, member, rfl⟩

theorem selectExistingOrFirst_single (resolved : List SocketAddr) (own : IpAddr) (port : Port)
    (weight : Weight) :
    selectExistingOrFirst resolved [{ address := .ip own port, weight := weight }] =
      if { ip := own, port := port.value } ∈ resolved then
        some { ip := own, port := port.value }
      else none := by
  unfold selectExistingOrFirst
  rw [List.findSome?_singleton]

theorem resolveLogicalDns_fixed {config : Upstream} {named : Endpoint} {position : Nat}
    (first : config.endpoints.zipIdx.find? (fun endpoint => endpoint.1.address.isDns) =
      some (named, position)) {host : Text} {port : Port} (name : named.address = .dns host port)
    {ip : IpAddr} {others : List IpAddr} (known : answers host = ip :: others)
    (own : IpAddr) (ownPort : Port) (weight : Weight) :
    resolveLogicalDns config [{ address := .ip own ownPort, weight := weight }]
        (.fixed answers) =
      .ok (some
        [{ address := .ip (if ownPort = port ∧ own ∈ answers host then own else ip) port
           weight := named.weight }]) := by
  have listed := mem_resolved_iff (ip :: others) port own ownPort
  unfold resolveLogicalDns
  rw [first]
  dsimp only
  rw [name]
  dsimp only
  rw [show resolveDns (.fixed answers) position host port =
    .ok ((ip :: others).map fun ip => { ip := ip, port := port.value }) by
      unfold resolveDns Lookup.fixed
      rw [known], ok_bind]
  rw [List.map_cons] at listed ⊢
  dsimp only
  rw [selectExistingOrFirst_single, known]
  by_cases kept : ownPort = port ∧ own ∈ ip :: others
  · rw [if_pos (listed.mpr kept), if_pos kept, Option.getD_some, kept.1, resolvedEndpoint_port]
    rfl
  · rw [if_neg (fun member => kept (listed.mp member)), if_neg kept, Option.getD_none,
      resolvedEndpoint_port]
    rfl

end

/-! ### The first round after startup -/

/-- A task that is given back the endpoints it was spawned with, or none. -/
def ResolveTask.Unmoved (task : ResolveTask) (lookup : Lookup) : Prop :=
  ∀ update, resolveUpstream task lookup = some update → update.endpoints = task.current

/-- Where a logical upstream lists addresses and names, its first address is one
of those its first name stands for. -/
def PinnedAddressNamed (answers : Text → List IpAddr) (config : Upstream) : Prop :=
  config.discovery = .logical →
    ∀ own ∈ config.endpoints.find? (fun endpoint => !endpoint.address.isDns),
      ∀ named ∈ config.endpoints.find? (fun endpoint => endpoint.address.isDns),
        own ∈ expandEndpoint answers named

section

variable {answers : Text → List IpAddr} {upstream : Upstream} {installed : List Endpoint}

private theorem unmoved_strict (answered : ∀ host, answers host ≠ []) {ttl : Nat}
    (discovery : upstream.discovery = .strict ttl)
    (ran : materializeUpstream (.fixed answers) upstream = .ok installed) (name : Text) :
    ResolveTask.Unmoved { name := name, config := upstream, current := installed }
      (.fixed answers) := by
  unfold materializeUpstream at ran
  rw [discovery] at ran
  have same := materializeAllEndpoints_fixed answered ran
  intro update resolved
  unfold resolveUpstream resolveStrictDns at resolved
  dsimp only at resolved
  rw [discovery] at resolved
  dsimp only at resolved
  rw [resolveStrictEndpoints_fixed answered, ok_bind, ← same] at resolved
  cases installed with
  | nil => cases resolved
  | cons =>
    cases resolved
    rfl

private theorem resolveUpstream_logical {task : ResolveTask} {lookup : Lookup}
    (discovery : task.config.discovery = .logical) {endpoints : List Endpoint}
    (ran : resolveLogicalDns task.config task.current lookup = .ok (some endpoints)) :
    resolveUpstream task lookup = some { name := task.name, endpoints := endpoints } := by
  unfold resolveUpstream
  rw [discovery]
  dsimp only
  rw [ran]

theorem unmoved_logical_of_update {name : Text} (discovery : upstream.discovery = .logical)
    {endpoints : List Endpoint}
    (ran : resolveLogicalDns upstream installed (.fixed answers) = .ok (some endpoints)) :
    ResolveTask.Unmoved { name := name, config := upstream, current := installed }
      (.fixed answers) ↔ endpoints = installed := by
  have resolved : resolveUpstream { name := name, config := upstream, current := installed }
      (.fixed answers) = some { name := name, endpoints := endpoints } :=
    resolveUpstream_logical discovery ran
  constructor
  · intro unmoved
    exact unmoved _ resolved
  · intro same update given
    rw [resolved] at given
    cases given
    exact same

private theorem ip_of_find? {own : Endpoint}
    (found : upstream.endpoints.find? (fun endpoint => !endpoint.address.isDns) = some own) :
    ∃ ip port, own.address = .ip ip port := by
  have notDns := List.find?_some found
  cases address : own.address with
  | ip ip port => exact ⟨ip, port, rfl⟩
  | dns =>
    rw [address] at notDns
    cases notDns

theorem dns_of_find? {named : Endpoint × Nat}
    (found : upstream.endpoints.zipIdx.find? (fun endpoint => endpoint.1.address.isDns) =
      some named) : ∃ host port, named.1.address = .dns host port := by
  have isDns := List.find?_some found
  cases address : named.1.address with
  | dns host port => exact ⟨host, port, rfl⟩
  | ip =>
    rw [address] at isDns
    cases isDns

private theorem unmoved_pinned_iff (answered : ∀ host, answers host ≠ [])
    (discovery : upstream.discovery = .logical) {own named : Endpoint} {position : Nat}
    (pinned : upstream.endpoints.find? (fun endpoint => !endpoint.address.isDns) = some own)
    (first : upstream.endpoints.zipIdx.find? (fun endpoint => endpoint.1.address.isDns) =
      some (named, position)) (name : Text) :
    ResolveTask.Unmoved { name := name, config := upstream, current := [own] }
      (.fixed answers) ↔ own ∈ expandEndpoint answers named := by
  obtain ⟨ip, ownPort, ownAddress⟩ := ip_of_find? pinned
  obtain ⟨host, port, namedAddress⟩ := dns_of_find? first
  obtain ⟨address, weight⟩ := own
  obtain ⟨namedAddr, namedWeight⟩ := named
  cases ownAddress
  cases namedAddress
  obtain ⟨head, others, known⟩ := List.exists_cons_of_ne_nil (answered host)
  rw [unmoved_logical_of_update discovery
    (resolveLogicalDns_fixed first rfl known ip ownPort weight)]
  unfold expandEndpoint
  dsimp only
  rw [List.mem_map]
  constructor
  · intro same
    have parts := Endpoint.mk.inj (List.cons.inj same).1
    obtain ⟨selected, rfl⟩ := EndpointAddr.ip.inj parts.1
    rw [parts.2]
    refine ⟨ip, ?_, rfl⟩
    by_cases kept : port = port ∧ ip ∈ answers host
    · exact kept.2
    · rw [if_neg kept] at selected
      rw [← selected, known]
      exact List.mem_cons_self
  · rintro ⟨listed, member, same⟩
    cases same
    rw [if_pos ⟨rfl, member⟩]

private theorem unmoved_named (answered : ∀ host, answers host ≠ [])
    (discovery : upstream.discovery = .logical) {named : Endpoint × Nat}
    (first : upstream.endpoints.zipIdx.find? (fun endpoint => endpoint.1.address.isDns) =
      some named) {endpoint : Endpoint} {others : List Endpoint}
    (expanded : expandEndpoint answers named.1 = endpoint :: others) (name : Text) :
    ResolveTask.Unmoved { name := name, config := upstream, current := [endpoint] }
      (.fixed answers) := by
  obtain ⟨host, port, namedAddress⟩ := dns_of_find? first
  obtain ⟨⟨address, weight⟩, position⟩ := named
  cases namedAddress
  obtain ⟨head, rest, known⟩ := List.exists_cons_of_ne_nil (answered host)
  unfold expandEndpoint at expanded
  dsimp only at expanded
  rw [known, List.map_cons] at expanded
  cases expanded
  rw [unmoved_logical_of_update discovery
    (resolveLogicalDns_fixed first rfl known head port weight), ite_self]

private theorem unmoved_logical_iff (answered : ∀ host, answers host ≠ [])
    (discovery : upstream.discovery = .logical)
    (ran : materializeUpstream (.fixed answers) upstream = .ok installed) (name : Text) :
    ResolveTask.Unmoved { name := name, config := upstream, current := installed }
        (.fixed answers) ↔
      PinnedAddressNamed answers upstream := by
  have plain := find?_zipIdx_fst (fun endpoint : Endpoint => endpoint.address.isDns)
    upstream.endpoints
  unfold materializeUpstream at ran
  rw [discovery] at ran
  dsimp only at ran
  unfold materializeLogicalUpstream at ran
  unfold PinnedAddressNamed
  rw [← plain]
  cases pinned : upstream.endpoints.find? (fun endpoint => !endpoint.address.isDns) with
  | some =>
    rw [pinned] at ran
    cases ran
    cases first : upstream.endpoints.zipIdx.find?
        (fun endpoint => endpoint.1.address.isDns) with
    | some =>
      rw [unmoved_pinned_iff answered discovery pinned first name]
      simp [discovery]
    | none =>
      constructor
      · intro _ _ own' _ named member
        cases member
      · intro _ update resolved
        unfold resolveUpstream resolveLogicalDns at resolved
        dsimp only at resolved
        rw [discovery, first] at resolved
        cases resolved
  | none =>
    rw [pinned] at ran
    dsimp only at ran
    constructor
    · intro _ _ own member
      cases member
    · intro _
      split at ran
      · cases ran
      · rename_i named first
        rw [materializeEndpoint_fixed answered, ok_bind] at ran
        cases expanded : expandEndpoint answers named.1 with
        | nil =>
          rw [expanded] at ran
          cases ran
        | cons =>
          rw [expanded] at ran
          cases ran
          exact unmoved_named answered discovery first expanded name

end

/-- In the round that follows a startup with the same answers every task keeps the
endpoints that were installed, unless an upstream pins an address its name does
not stand for. -/
theorem startup_resolution_fixed_iff (answers : Text → List IpAddr)
    (answered : ∀ host, answers host ≠ []) {loadsMaterials : Upstream → Bool} {clock : Clock}
    {upstreams : List Upstream} {manager : Manager}
    (built : Manager.build (fun _ => .fixed answers) loadsMaterials clock upstreams =
      .ok manager) {task : ResolveTask} (spawned : task ∈ manager.spawn) :
    task.Unmoved (.fixed answers) ↔ PinnedAddressNamed answers task.config := by
  have resolved := Manager.spawn_resolved spawned
  obtain ⟨entry, listed, kept⟩ := List.mem_filterMap.mp spawned
  split at kept
  · cases kept
    have found : manager.get entry.1 = some entry.2 := AList.mem_lookup_iff.mpr listed
    obtain ⟨upstream, _, _, config, _, installed⟩ := Manager.cluster_of_build built found
    dsimp only at resolved ⊢
    rw [config] at resolved ⊢
    cases discovery : upstream.1.discovery with
    | static =>
      rw [discovery] at resolved
      cases resolved
    | logical => exact unmoved_logical_iff answered discovery installed entry.1
    | strict =>
      constructor
      · intro _ logical
        rw [discovery] at logical
        cases logical
      · intro _
        exact unmoved_strict answered discovery installed entry.1
  · cases kept

def pinnedApi (address : IpAddr) : Upstream :=
  { apiUpstream .logical (.ip address (.constant 80)) with
    endpoints :=
      [ { address := .ip address (.constant 80), weight := .constant 1 },
        { address := .dns (literal "api.example") (.constant 80), weight := .constant 1 } ] }

def twoAddresses : Text → List IpAddr := fun _ => [.v4 192 0 2 7, .v4 192 0 2 8]

def firstRound (upstream : Upstream) : List ResolveTask :=
  match Manager.build (fun _ => .fixed twoAddresses) (fun _ => true) (fun _ => quietClock)
      [upstream] with
  | .ok manager => manager.spawn
  | .error _ => []

def lastAddress : Endpoint :=
  { address := .ip (.v4 192 0 2 8) (.constant 80), weight := .constant 1 }

/-- The address that was installed is not one of the name, so the first round
replaces it. -/
theorem pinned_address_replaced :
    (firstRound (pinnedApi (.v4 10 0 0 1))).map ResolveTask.current =
        [[{ address := .ip (.v4 10 0 0 1) (.constant 80), weight := .constant 1 }]] ∧
      (firstRound (pinnedApi (.v4 10 0 0 1))).map
          (fun task => (resolveUpstream task (.fixed twoAddresses)).map ResolvedUpdate.endpoints) =
        [some [{ address := .ip (.v4 192 0 2 7) (.constant 80), weight := .constant 1 }]] := by
  decide +kernel

/-- The second address of the name is kept. -/
theorem startup_resolution_fixed_iff_lastAddress :
    ∃ task ∈ firstRound (pinnedApi (.v4 192 0 2 8)),
      task.current = [lastAddress] ∧ task.Unmoved (.fixed twoAddresses) := by
  have ok : (Manager.build (fun _ => .fixed twoAddresses) (fun _ => true) (fun _ => quietClock)
      [pinnedApi (.v4 192 0 2 8)]).isOk = true := by
    decide +kernel
  obtain ⟨manager, built⟩ := exists_of_isOk ok
  have tasks : firstRound (pinnedApi (.v4 192 0 2 8)) = manager.spawn := by
    unfold firstRound
    rw [built]
  have spawned : (firstRound (pinnedApi (.v4 192 0 2 8))).head?.map
      (fun task => (task.config, task.current)) =
        some (pinnedApi (.v4 192 0 2 8), [lastAddress]) := by
    decide +kernel
  obtain ⟨task, head, same⟩ := Option.map_eq_some_iff.mp spawned
  have member := List.mem_of_mem_head? head
  have config : task.config = pinnedApi (.v4 192 0 2 8) := congrArg Prod.fst same
  refine ⟨task, member, congrArg Prod.snd same, ?_⟩
  rw [startup_resolution_fixed_iff twoAddresses (fun _ => List.cons_ne_nil _ _) built
    (tasks ▸ member), config]
  rintro - own ⟨⟩ named ⟨⟩
  decide

end Pavis.Upstream
