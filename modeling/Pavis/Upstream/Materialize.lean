/-
The clusters of a configuration.

A DNS name is looked up once for each endpoint that has it, and may be answered
differently each time. A lookup without an answer has failed. Loading the TLS
files of an upstream is a parameter.
-/

import Pavis.Library.Fallible
import Pavis.Upstream.Cluster

namespace Pavis.Upstream

open ByteText Config Fallible KeyedMap

/-- The answer to the lookup made for the endpoint at a position. -/
abbrev Lookup := Nat → Text → Option (List IpAddr)

inductive MaterializeError where
  | resolutionFailed (host : Text) (port : Port)
  | noAddresses (host : Text) (port : Port)
  | noDnsEndpoint (upstream : Text)
  | noAddressForLogical (upstream : Text)
  | noResolvableEndpoint (upstream : Text)
  | tlsMaterials (upstream : Text)
  deriving DecidableEq

def resolveDnsOnce (lookup : Lookup) (position : Nat) (host : Text) (port : Port) :
    Except MaterializeError (List SocketAddr) :=
  match lookup position host with
  | none => .error (.resolutionFailed host port)
  | some [] => .error (.noAddresses host port)
  | some addresses => .ok (addresses.map fun ip => { ip := ip, port := port.value })

def materializeEndpoint (lookup : Lookup) (endpoint : Endpoint) (position : Nat) :
    Except MaterializeError (List Endpoint) :=
  match endpoint.address with
  | .ip _ _ => .ok [endpoint]
  | .dns host port => do
    let addresses ← resolveDnsOnce lookup position host port
    return addresses.map fun address =>
      { address := .ip address.ip port, weight := endpoint.weight }

def materializeLogicalUpstream (lookup : Lookup) (upstream : Upstream) :
    Except MaterializeError (List Endpoint) :=
  match upstream.endpoints.find? fun endpoint => !endpoint.address.isDns with
  | some ipEndpoint => .ok [ipEndpoint]
  | none =>
    match upstream.endpoints.zipIdx.find? fun endpoint => endpoint.1.address.isDns with
    | none => .error (.noDnsEndpoint upstream.name)
    | some dnsEndpoint => do
      match ← materializeEndpoint lookup dnsEndpoint.1 dnsEndpoint.2 with
      | [] => throw (.noAddressForLogical upstream.name)
      | first :: _ => return [first]

def materializeAllEndpoints (lookup : Lookup) (upstream : Upstream) :
    Except MaterializeError (List Endpoint) := do
  let resolved ← upstream.endpoints.zipIdx.mapM fun endpoint =>
    materializeEndpoint lookup endpoint.1 endpoint.2
  match resolved.flatten with
  | [] => throw (.noResolvableEndpoint upstream.name)
  | endpoints => return endpoints

def materializeUpstream (lookup : Lookup) (upstream : Upstream) :
    Except MaterializeError (List Endpoint) :=
  match upstream.discovery with
  | .logical => materializeLogicalUpstream lookup upstream
  | .static | .strict _ => materializeAllEndpoints lookup upstream

def materializeUpstreams (lookups : Nat → Lookup) (upstreams : List Upstream) :
    Except MaterializeError (Map Text (List Endpoint)) := do
  let resolved ← upstreams.zipIdx.mapM fun upstream => do
    let endpoints ← materializeUpstream (lookups upstream.2) upstream.1
    return (upstream.1.name, endpoints)
  return ofPairs resolved

structure Manager where
  clusters : Map Text Cluster

/-- When a manager is built every cluster makes its own readings of the clock. -/
abbrev Clock := Text → Readings

namespace Manager

def new (loadsMaterials : Upstream → Bool) (clock : Clock) (upstreams : List Upstream) :
    Except MaterializeError Manager := do
  let clusters ← upstreams.mapM fun upstream =>
    if loadsMaterials upstream then
      .ok (upstream.name, Cluster.new upstream (clock upstream.name).first)
    else .error (.tlsMaterials upstream.name)
  return { clusters := ofPairs clusters }

def get (manager : Manager) (name : Text) : Option Cluster := manager.clusters.lookup name

def updateEndpoints (manager : Manager) (clock : Clock) (resolved : Map Text (List Endpoint)) :
    Manager :=
  { clusters := applyUpdates
      (fun name cluster endpoints => (cluster.updateEndpoints endpoints (clock name)).1)
      resolved manager.clusters }

def build (lookups : Nat → Lookup) (loadsMaterials : Upstream → Bool) (clock : Clock)
    (upstreams : List Upstream) : Except MaterializeError Manager := do
  let resolved ← materializeUpstreams lookups upstreams
  let manager ← new loadsMaterials clock upstreams
  return manager.updateEndpoints clock resolved

end Manager

def Lookup.answer (lookup : Lookup) (endpoint : Endpoint × Nat) : List (Text × IpAddr) :=
  match endpoint.1.address with
  | .ip _ _ => []
  | .dns host _ => ((lookup endpoint.2 host).getD []).map fun ip => (host, ip)

def Lookup.answers (lookup : Lookup) (upstream : Upstream) : List (Text × IpAddr) :=
  upstream.endpoints.zipIdx.flatMap lookup.answer

/-- An IP endpoint of the configuration, or an answer for one of its DNS endpoints
with the port and the weight of that endpoint. -/
def DerivedFrom (answers : List (Text × IpAddr)) (config : Upstream) (endpoint : Endpoint) : Prop :=
  (endpoint ∈ config.endpoints ∧ endpoint.address.isDns = false) ∨
    ∃ host port weight ip, { address := .dns host port, weight := weight } ∈ config.endpoints ∧
      (host, ip) ∈ answers ∧ endpoint = { address := .ip ip port, weight := weight }

variable {config upstream : Upstream} {endpoint : Endpoint} {lookup : Lookup}
  {resolved : List Endpoint}

theorem DerivedFrom.mono {answers more : List (Text × IpAddr)}
    (derived : DerivedFrom answers config endpoint) (grows : ∀ answer ∈ answers, answer ∈ more) :
    DerivedFrom more config endpoint := by
  rcases derived with own | ⟨host, port, weight, ip, listed, answered, same⟩
  · exact Or.inl own
  · exact Or.inr ⟨host, port, weight, ip, listed, grows _ answered, same⟩

theorem DerivedFrom.of_answer {position : Nat}
    (listed : (endpoint, position) ∈ config.endpoints.zipIdx) {host : Text} {port : Port}
    (named : endpoint.address = .dns host port) {addresses : List IpAddr}
    (answered : lookup position host = some addresses) {ip : IpAddr} (member : ip ∈ addresses) :
    DerivedFrom (lookup.answers config) config
      { address := .ip ip port, weight := endpoint.weight } := by
  obtain ⟨address, weight⟩ := endpoint
  cases named
  refine Or.inr ⟨host, port, weight, ip, List.fst_mem_of_mem_zipIdx listed, ?_, rfl⟩
  refine List.mem_flatMap.mpr ⟨_, listed, ?_⟩
  simp only [Lookup.answer, answered, Option.getD_some]
  exact List.mem_map.mpr ⟨ip, member, rfl⟩

theorem materializeEndpoint_ok {position : Nat}
    (listed : (endpoint, position) ∈ config.endpoints.zipIdx)
    (ran : materializeEndpoint lookup endpoint position = .ok resolved) :
    resolved ≠ [] ∧ ∀ found ∈ resolved, DerivedFrom (lookup.answers config) config found := by
  unfold materializeEndpoint at ran
  split at ran
  · rename_i ip port address
    cases ran
    refine ⟨List.cons_ne_nil _ _, ?_⟩
    intro found member
    cases List.mem_singleton.mp member
    exact Or.inl ⟨List.fst_mem_of_mem_zipIdx listed, by rw [address]; rfl⟩
  · rename_i host port address
    obtain ⟨sockets, looked, same⟩ := bind_eq_ok.mp ran
    cases same
    unfold resolveDnsOnce at looked
    split at looked
    · cases looked
    · cases looked
    · rename_i addresses nonempty answered
      cases looked
      constructor
      · simpa using nonempty
      · intro found member
        simp only [List.map_map, List.mem_map, Function.comp_apply] at member
        obtain ⟨ip, known, rfl⟩ := member
        exact DerivedFrom.of_answer listed address answered known

private theorem materializeLogicalUpstream_ok
    (ran : materializeLogicalUpstream lookup upstream = .ok resolved) :
    resolved ≠ [] ∧ ∀ found ∈ resolved, DerivedFrom (lookup.answers upstream) upstream found := by
  unfold materializeLogicalUpstream at ran
  split at ran
  · rename_i endpoint first
    cases ran
    refine ⟨List.cons_ne_nil _ _, ?_⟩
    intro found member
    cases List.mem_singleton.mp member
    exact Or.inl ⟨List.mem_of_find?_eq_some first, by simpa using List.find?_some first⟩
  · split at ran
    · cases ran
    · rename_i endpoint first
      obtain ⟨candidates, looked, picked⟩ := bind_eq_ok.mp ran
      have derived := (materializeEndpoint_ok (List.mem_of_find?_eq_some first) looked).2
      cases candidates with
      | nil => cases picked
      | cons =>
        cases picked
        refine ⟨List.cons_ne_nil _ _, ?_⟩
        intro found member
        cases List.mem_singleton.mp member
        exact derived _ List.mem_cons_self

theorem materializeAllEndpoints_ok (ran : materializeAllEndpoints lookup upstream = .ok resolved) :
    resolved ≠ [] ∧ ∀ found ∈ resolved, DerivedFrom (lookup.answers upstream) upstream found := by
  obtain ⟨groups, looked, joined⟩ := bind_eq_ok.mp ran
  have derived : ∀ found ∈ groups.flatten,
      DerivedFrom (lookup.answers upstream) upstream found := by
    intro found member
    obtain ⟨group, groupMember, inGroup⟩ := List.mem_flatten.mp member
    obtain ⟨endpoint, listed, ranEndpoint⟩ :=
      exists_of_mem_right (mapM_eq_ok.mp looked) groupMember
    exact (materializeEndpoint_ok listed ranEndpoint).2 found inGroup
  split at joined
  · cases joined
  · rename_i nonempty
    cases joined
    exact ⟨nonempty, derived⟩

theorem materializeUpstream_ok (ran : materializeUpstream lookup upstream = .ok resolved) :
    resolved ≠ [] ∧ ∀ found ∈ resolved, DerivedFrom (lookup.answers upstream) upstream found := by
  unfold materializeUpstream at ran
  split at ran
  · exact materializeLogicalUpstream_ok ran
  · exact materializeAllEndpoints_ok ran
  · exact materializeAllEndpoints_ok ran

/-- Every DNS endpoint of the upstream is answered with an address. -/
def Lookup.Resolves (lookup : Lookup) (upstream : Upstream) : Prop :=
  ∀ endpoint ∈ upstream.endpoints.zipIdx, ∀ host port, endpoint.1.address = .dns host port →
    ∃ first others, lookup endpoint.2 host = some (first :: others)

theorem materializeEndpoint_succeeds (resolves : lookup.Resolves upstream)
    {endpoint : Endpoint × Nat} (listed : endpoint ∈ upstream.endpoints.zipIdx) :
    ∃ resolved, materializeEndpoint lookup endpoint.1 endpoint.2 = .ok resolved := by
  unfold materializeEndpoint
  split
  · exact ⟨_, rfl⟩
  · rename_i host port named
    obtain ⟨first, others, answered⟩ := resolves endpoint listed host port named
    unfold resolveDnsOnce
    rw [answered]
    exact ⟨_, rfl⟩

private theorem materializeLogicalUpstream_succeeds (nonempty : upstream.endpoints ≠ [])
    (resolves : lookup.Resolves upstream) :
    ∃ resolved, materializeLogicalUpstream lookup upstream = .ok resolved := by
  unfold materializeLogicalUpstream
  split
  · exact ⟨_, rfl⟩
  · rename_i noIp
    split
    · rename_i noDns
      obtain ⟨endpoint, rest, listed⟩ := List.exists_cons_of_ne_nil nonempty
      have isDns := List.find?_eq_none.mp noIp endpoint (by rw [listed]; exact List.mem_cons_self)
      have notDns := List.find?_eq_none.mp noDns (endpoint, 0) (by rw [listed]; simp)
      simp only [Bool.not_eq_true', Bool.not_eq_false] at isDns
      exact absurd isDns notDns
    · rename_i endpoint first
      have listed := List.mem_of_find?_eq_some first
      obtain ⟨candidates, ran⟩ := materializeEndpoint_succeeds resolves listed
      have found := (materializeEndpoint_ok listed ran).1
      rw [ran]
      cases candidates with
      | nil => exact absurd rfl found
      | cons => exact ⟨_, rfl⟩

private theorem materializeAllEndpoints_succeeds (nonempty : upstream.endpoints ≠ [])
    (resolves : lookup.Resolves upstream) :
    ∃ resolved, materializeAllEndpoints lookup upstream = .ok resolved := by
  obtain ⟨groups, ran⟩ := mapM_succeeds fun _ listed =>
    materializeEndpoint_succeeds resolves listed
  have joined : groups.flatten ≠ [] := by
    obtain ⟨endpoint, rest, listed⟩ := List.exists_cons_of_ne_nil nonempty
    have paired := mapM_eq_ok.mp ran
    rw [listed, List.zipIdx_cons] at paired
    cases paired with
    | @cons _ group _ others ranFirst _ =>
      have member : (endpoint, 0) ∈ upstream.endpoints.zipIdx := by
        rw [listed]
        exact List.mem_cons_self
      have first := (materializeEndpoint_ok member ranFirst).1
      rw [List.flatten_cons]
      exact fun same => first (List.append_eq_nil_iff.mp same).1
  unfold materializeAllEndpoints
  rw [ran]
  cases flat : groups.flatten with
  | nil => exact absurd flat joined
  | cons first others =>
    refine ⟨first :: others, bind_eq_ok.mpr ⟨groups, rfl, ?_⟩⟩
    rw [flat]
    rfl

private theorem materializeUpstream_succeeds (nonempty : upstream.endpoints ≠ [])
    (resolves : lookup.Resolves upstream) :
    ∃ resolved, materializeUpstream lookup upstream = .ok resolved := by
  unfold materializeUpstream
  split
  · exact materializeLogicalUpstream_succeeds nonempty resolves
  · exact materializeAllEndpoints_succeeds nonempty resolves
  · exact materializeAllEndpoints_succeeds nonempty resolves

variable {lookups : Nat → Lookup} {loadsMaterials : Upstream → Bool} {upstreams : List Upstream}
  {clock : Clock} {manager : Manager}

theorem Manager.build_succeeds (nonempty : ∀ upstream ∈ upstreams, upstream.endpoints ≠ [])
    (resolves : ∀ upstream ∈ upstreams.zipIdx, (lookups upstream.2).Resolves upstream.1)
    (loads : ∀ upstream ∈ upstreams, loadsMaterials upstream = true) (clock : Clock) :
    ∃ manager, build lookups loadsMaterials clock upstreams = .ok manager := by
  unfold build materializeUpstreams new
  apply bind_succeeds
  · apply bind_succeeds
    · apply mapM_succeeds
      intro upstream listed
      apply bind_succeeds
      · exact materializeUpstream_succeeds
          (nonempty upstream.1 (List.fst_mem_of_mem_zipIdx listed)) (resolves upstream listed)
      · intro endpoints _
        exact ⟨_, rfl⟩
    · intro pairs _
      exact ⟨_, rfl⟩
  · intro resolved _
    apply bind_succeeds
    · apply bind_succeeds
      · apply mapM_succeeds
        intro upstream listed
        exact ⟨_, if_pos (loads upstream listed)⟩
      · intro clusters _
        exact ⟨_, rfl⟩
    · intro manager _
      exact ⟨_, rfl⟩

private theorem materializeUpstreams_paired {resolved : Map Text (List Endpoint)}
    (ran : materializeUpstreams lookups upstreams = .ok resolved) :
    ∃ pairs, resolved = ofPairs pairs ∧
      List.Forall₂ (fun upstream pair => pair.1 = upstream.1.name ∧
        materializeUpstream (lookups upstream.2) upstream.1 = .ok pair.2)
        upstreams.zipIdx pairs := by
  obtain ⟨pairs, looked, same⟩ := bind_eq_ok.mp ran
  cases same
  refine ⟨pairs, rfl, (mapM_eq_ok.mp looked).imp ?_⟩
  intro upstream pair ranOne
  obtain ⟨endpoints, ranUpstream, paired⟩ := bind_eq_ok.mp ranOne
  cases paired
  exact ⟨rfl, ranUpstream⟩

theorem Manager.new_paired (ran : new loadsMaterials clock upstreams = .ok manager) :
    ∃ pairs, manager.clusters = ofPairs pairs ∧
      List.Forall₂ (fun upstream pair => pair.1 = upstream.name ∧
        pair.2 = Cluster.new upstream (clock upstream.name).first) upstreams pairs := by
  obtain ⟨pairs, looked, same⟩ := bind_eq_ok.mp ran
  cases same
  refine ⟨pairs, rfl, (mapM_eq_ok.mp looked).imp ?_⟩
  intro upstream pair ranOne
  split at ranOne
  · cases ranOne
    exact ⟨rfl, rfl⟩
  · cases ranOne

theorem Manager.get_of_build
    (built : build lookups loadsMaterials clock upstreams = .ok manager) (name : Text) :
    Option.Rel
      (fun upstream cluster => ∃ endpoints,
        materializeUpstream (lookups upstream.2) upstream.1 = .ok endpoints ∧
        cluster = ((Cluster.new upstream.1 (clock upstream.1.name).first).updateEndpoints
          endpoints (clock name)).1)
      (upstreams.zipIdx.reverse.find? fun upstream => upstream.1.name = name)
      (manager.get name) := by
  obtain ⟨resolved, ranResolve, later⟩ := bind_eq_ok.mp built
  obtain ⟨fresh, ranNew, same⟩ := bind_eq_ok.mp later
  cases same
  obtain ⟨endpointPairs, rfl, endpointsPaired⟩ := materializeUpstreams_paired ranResolve
  obtain ⟨clusterPairs, clusters, clustersPaired⟩ := new_paired ranNew
  have endpointsFound := find?_of_forall₂ (List.forall₂_reverse_iff.mpr endpointsPaired)
    (fun upstream => decide (upstream.1.name = name)) (fun pair => decide (pair.1 = name))
    (fun upstream pair holds => by rw [holds.1])
  rw [← List.zipIdx_map_fst 0 upstreams, List.forall₂_map_left_iff] at clustersPaired
  have clustersFound := find?_of_forall₂ (List.forall₂_reverse_iff.mpr clustersPaired)
    (fun upstream => decide (upstream.1.name = name)) (fun pair => decide (pair.1 = name))
    (fun upstream pair holds => by rw [holds.1])
  unfold get updateEndpoints
  rw [lookup_applyUpdates, clusters, lookup_ofPairs, lookup_ofPairs]
  generalize upstreams.zipIdx.reverse.find? _ = upstream at endpointsFound clustersFound ⊢
  generalize endpointPairs.reverse.find? _ = endpointPair at endpointsFound ⊢
  generalize clusterPairs.reverse.find? _ = clusterPair at clustersFound ⊢
  cases endpointsFound with
  | none =>
    cases clustersFound
    exact .none
  | some resolvedTo =>
    cases clustersFound with
    | some created =>
      rw [Option.map_some, Option.map_some, created.2]
      exact .some ⟨_, resolvedTo.2, rfl⟩

theorem Manager.cluster_of_build
    (built : build lookups loadsMaterials clock upstreams = .ok manager) {name : Text}
    {cluster : Cluster} (found : manager.get name = some cluster) :
    ∃ upstream ∈ upstreams.zipIdx, upstream.1.name = name ∧ cluster.config = upstream.1 ∧
      cluster.state.endpoints ⊆ cluster.currentEndpoints ∧
      materializeUpstream (lookups upstream.2) upstream.1 = .ok cluster.currentEndpoints := by
  have related := get_of_build built name
  rw [found] at related
  cases searched : upstreams.zipIdx.reverse.find? fun upstream => upstream.1.name = name with
  | none =>
    rw [searched] at related
    cases related
  | some upstream =>
    rw [searched] at related
    cases related with
    | some holds =>
      obtain ⟨endpoints, resolved, rfl⟩ := holds
      refine ⟨upstream, List.mem_reverse.mp (List.mem_of_find?_eq_some searched), ?_, rfl,
        List.filter_subset_self _, resolved⟩
      simpa using List.find?_some searched

theorem Manager.get_of_mem
    (built : build lookups loadsMaterials clock upstreams = .ok manager)
    (member : upstream ∈ upstreams) : ∃ cluster, manager.get upstream.name = some cluster := by
  have related := get_of_build built upstream.name
  cases found : manager.get upstream.name with
  | some cluster => exact ⟨cluster, rfl⟩
  | none =>
    rw [found] at related
    cases searched : upstreams.zipIdx.reverse.find? fun item => item.1.name = upstream.name with
    | some =>
      rw [searched] at related
      cases related
    | none =>
      obtain ⟨position, listed⟩ := List.getElem?_of_mem member
      have absent := List.find?_eq_none.mp searched (upstream, position)
        (List.mem_reverse.mpr (List.mem_zipIdx_iff_getElem?.mpr listed))
      simp at absent

end Pavis.Upstream
