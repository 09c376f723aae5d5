/-
The server name of an upstream connection.

Whether the client satisfies the route's principal, and whether the pool and the
breaker admit the request, are part of the action.
-/

import Pavis.Library.WordArith
import Pavis.State.Materialized
import Pavis.Upstream.ClusterRuns
import Pavis.Upstream.Resolver

namespace Pavis.Proxy

open ByteText Config Fallible KeyedMap LabelledRun State Upstream WordArith
open Routing (RegexEngine wordEngine)

structure RouterContext where
  upstreamName : Option Text
  sniOverride : Option Text
  rewrittenHost : Option Text
  deriving DecidableEq

def newCtx : RouterContext :=
  { upstreamName := none, sniOverride := none, rewrittenHost := none }

inductive SplitEnd where
  | selected (position : Nat)
  | fellThrough
  | underflow
  deriving DecidableEq

def selectionLoop (position : Nat) : List Destination → Nat → SplitEnd
  | [], _ => .fellThrough
  | destination :: rest, pick =>
    if pick < destination.weight.value then .selected position
    else
      match checkedSub pick destination.weight.value with
      | none => .underflow
      | some left => selectionLoop (position + 1) rest left

def pickDestination (destinations : List Destination) (pick : Nat) : Option Destination :=
  match selectionLoop 0 destinations pick with
  | .selected position => destinations[position]?
  | .fellThrough => none
  | .underflow => none

def setRewrittenHost (ctx : RouterContext) : RewriteHost → RouterContext
  | .disabled => ctx
  | .literal host => { ctx with rewrittenHost := some host }

/-- Nothing when the filter answers the request itself. Weights are summed as the
release build sums them. -/
def requestFilter (route : Route) (authorized : Bool) (draw : Nat) (ctx : RouterContext) :
    Option RouterContext :=
  if authorized then
    let ctx := setRewrittenHost ctx route.policy.rewrite.host
    match route.policy.action with
    | .redirect _ _ => none
    | .direct _ _ => none
    | .forward destinations =>
      let totalWeight :=
        (destinations.map fun destination => destination.weight.value).sum % 2 ^ 32
      if totalWeight = 0 then some ctx
      else
        match pickDestination destinations (draw % totalWeight) with
        | none => some ctx
        | some destination => some { ctx with upstreamName := some destination.upstream }
  else none

inductive PeerError where
  | noUpstreamSelected
  | upstreamNotFound
  | notAdmitted
  | noEndpoints
  | dnsNotMaterialized (host : Text) (port : Port)
  | verifyFullRequiresSni
  deriving DecidableEq

structure HttpPeer where
  address : SocketAddr
  useTls : Bool
  sni : Text
  verifyMode : Option TlsVerify
  deriving DecidableEq

def resolveSni (sni : SniName) (authorityOverride endpointHost : Option Text) : Option Text :=
  match sni with
  | .name name => some name
  | .auto => authorityOverride.or endpointHost
  | .disabled => none

/-- The loop over the endpoints, with the name selected so far. -/
def agreedHost (selected : Option Text) : List Endpoint → Option Text
  | [] => selected
  | endpoint :: rest =>
    match endpoint.address, selected with
    | .ip _ _, _ => agreedHost selected rest
    | .dns host _, none => agreedHost (some host) rest
    | .dns host _, some existing =>
      if existing = host then agreedHost selected rest else none

def endpointHostForSni (upstream : Upstream) (endpoint : Endpoint) : Option Text :=
  match endpoint.address with
  | .dns host _ => some host
  | .ip _ _ => if upstream.discovery.isResolved then agreedHost none upstream.endpoints else none

def resolveEndpointAddr (endpoint : Endpoint) : Except PeerError SocketAddr :=
  match endpoint.address with
  | .ip ip port => .ok { ip := ip, port := port.value }
  | .dns host port => .error (.dnsNotMaterialized host port)

def sniValue (settings : TlsSettings) (ctx : RouterContext) (endpointHost : Option Text) :
    Option Text :=
  match settings.canonicalSni with
  | .enabled name => some name
  | .disabled =>
    match settings.reuseAcrossSni with
    | .enabled =>
      match settings.sni with
      | .name name => some name
      | .auto => endpointHost
      | .disabled => none
    | .disabled => resolveSni settings.sni ctx.sniOverride endpointHost

def UpstreamPeerBuilder.build (ctx : RouterContext) (upstream : Upstream)
    (endpointHost : Option Text) (addr : SocketAddr) : Except PeerError HttpPeer :=
  match upstream.tls with
  | .disabled => .ok { address := addr, useTls := false, sni := [], verifyMode := none }
  | .enabled settings => do
    let sni := sniValue settings ctx endpointHost
    reject (settings.verify = .full ∧ sni = none) .verifyFullRequiresSni
    return { address := addr, useTls := true, sni := sni.getD [],
             verifyMode := some settings.verify }

/-- The endpoint a request is forwarded to, and the peer made of it. -/
structure Forwarded where
  upstream : Text
  endpoint : Endpoint
  peer : Except PeerError HttpPeer

structure PeerResult where
  manager : Manager
  peer : Except PeerError HttpPeer
  forwarded : Option Forwarded

def upstreamPeer (manager : Manager) (ctx : RouterContext) (admitted : Bool) (draw : Nat)
    (readings : Readings) : PeerResult :=
  match ctx.upstreamName with
  | none => { manager := manager, peer := .error .noUpstreamSelected, forwarded := none }
  | some name =>
    match manager.get name with
    | none => { manager := manager, peer := .error .upstreamNotFound, forwarded := none }
    | some cluster =>
      if admitted then
        let result := cluster.selectEndpoint draw readings
        let manager : Manager := { clusters := manager.clusters.insert name result.cluster }
        match result.selected with
        | none => { manager := manager, peer := .error .noEndpoints, forwarded := none }
        | some endpoint =>
          let peer := resolveEndpointAddr endpoint >>=
            UpstreamPeerBuilder.build ctx cluster.config
              (endpointHostForSni cluster.config endpoint)
          { manager := manager
            peer := peer
            forwarded := some { upstream := name, endpoint := endpoint, peer := peer } }
      else { manager := manager, peer := .error .notAdmitted, forwarded := none }

inductive ProxyAction where
  | request (route : Route) (authorized admitted : Bool) (pick draw : Nat) (readings : Readings)
  | resolve (task : ResolveTask) (lookup : Lookup) (readings : Readings)
  | setActiveHealth (name : Text) (endpoint : EndpointAddr) (healthy : Bool) (readings : Readings)
  | recordOutcome (name : Text) (endpoint : EndpointAddr) (outcome : UpstreamOutcome)
      (readings : Readings)

def performOn (manager : Manager) (name : Text) (readings : Readings) (call : ClusterCall) :
    Manager :=
  match manager.get name with
  | none => manager
  | some cluster =>
    { clusters := manager.clusters.insert name (cluster.perform readings call).cluster }

def proxyStep : Machine Manager ProxyAction (Option Forwarded) :=
  fun manager action =>
    match action with
    | .request route authorized admitted pick draw readings =>
      match requestFilter route authorized pick newCtx with
      | none => some (manager, none)
      | some ctx =>
        let result := upstreamPeer manager ctx admitted draw readings
        some (result.manager, result.forwarded)
    | .resolve task lookup readings =>
      match resolveUpstream task lookup with
      | none => some (manager, none)
      | some update =>
        some (performOn manager update.name readings (.updateEndpoints update.endpoints), none)
    | .setActiveHealth name endpoint healthy readings =>
      some (performOn manager name readings (.setActiveHealth endpoint healthy), none)
    | .recordOutcome name endpoint outcome readings =>
      some (performOn manager name readings (.recordOutcome endpoint outcome), none)

/-! ### Clusters with addresses only -/

variable {endpoint : Endpoint}

theorem isIp_of_derived {answers : List (Text × IpAddr)} {config : Upstream}
    (derived : DerivedFrom answers config endpoint) : endpoint.address.isDns = false := by
  rcases derived with own | ⟨host, port, weight, ip, _, _, rfl⟩
  · exact own.2
  · rfl

def AllIp (endpoints : List Endpoint) : Prop :=
  ∀ endpoint ∈ endpoints, endpoint.address.isDns = false

/-- Neither the current endpoints of the cluster nor those it selects from are
DNS names. -/
structure Resolved (cluster : Cluster) : Prop where
  current : AllIp cluster.currentEndpoints
  published : AllIp cluster.state.endpoints

theorem allIp_eligible {health : HealthState} (allIp : AllIp health.endpoints) (now : Instant) :
    AllIp (health.eligibleEndpoints now) :=
  fun endpoint member => allIp endpoint (List.mem_of_mem_filter member)

variable {cluster : Cluster} {draw : Nat}

theorem settle_resolved (resolved : Resolved cluster) {changed : HealthState × Bool}
    (allIp : AllIp changed.1.endpoints) (readings : Readings) :
    Resolved (cluster.settle changed readings).1 := by
  unfold Cluster.settle
  split
  · refine ⟨allIp, ?_⟩
    exact @allIp_eligible (changed.1.clearExpiredEjections readings.second).1 allIp readings.third
  · exact ⟨allIp, resolved.published⟩

theorem perform_resolved (resolved : Resolved cluster) (readings : Readings) (call : ClusterCall)
    (given : ∀ endpoints, call = .updateEndpoints endpoints → AllIp endpoints) :
    Resolved (cluster.perform readings call).cluster := by
  have noted : AllIp (cluster.noted readings call).1.endpoints := by
    rcases cluster.noted_edits readings call with ⟨endpoints, rfl⟩ | edits
    · exact given endpoints rfl
    · rw [edits.endpoints]
      exact resolved.current
  obtain ⟨counter, selected, same⟩ := cluster.perform_settles readings call
  obtain ⟨current, published⟩ := settle_resolved resolved noted readings
  rw [same]
  exact ⟨current, published⟩

private theorem selected_isIp (resolved : Resolved cluster) {readings : Readings}
    (selected : (cluster.selectEndpoint draw readings).selected = some endpoint) :
    endpoint.address.isDns = false := by
  have cleared : Resolved (cluster.refreshExpiredEjections readings).1 :=
    settle_resolved resolved resolved.current readings
  change ((cluster.refreshExpiredEjections readings).1.pickEndpoint draw).2 = some endpoint
    at selected
  unfold Cluster.pickEndpoint at selected
  split at selected
  · cases selected
  · exact cleared.published endpoint (List.mem_of_getElem? selected)

/-- Every cluster is that of a configured upstream and has addresses only. -/
def Serves (upstreams : List Upstream) (manager : Manager) : Prop :=
  ∀ name cluster, manager.get name = some cluster →
    Resolved cluster ∧ cluster.config ∈ upstreams ∧ cluster.config.name = name

variable {upstreams : List Upstream} {manager : Manager} {ctx : RouterContext}

theorem serves_of_build {lookups : Nat → Lookup} {loadsMaterials : Upstream → Bool} {clock : Clock}
    (built : Manager.build lookups loadsMaterials clock upstreams = .ok manager) :
    Serves upstreams manager := by
  intro name cluster found
  obtain ⟨upstream, listed, named, config, published, resolved⟩ :=
    Manager.cluster_of_build built found
  have allIp : AllIp cluster.currentEndpoints := fun endpoint member =>
    isIp_of_derived ((materializeUpstream_ok resolved).2 endpoint member)
  rw [config]
  exact ⟨⟨allIp, fun endpoint member => allIp endpoint (published member)⟩,
    List.fst_mem_of_mem_zipIdx listed, named⟩

theorem Serves.insert (serves : Serves upstreams manager) {name : Text} {after : Cluster}
    (found : manager.get name = some cluster) (resolved : Resolved after)
    (config : after.config = cluster.config) :
    Serves upstreams { clusters := manager.clusters.insert name after } := by
  intro other present looked
  by_cases same : other = name
  · subst same
    unfold Manager.get at looked
    rw [AList.lookup_insert] at looked
    cases looked
    rw [config]
    exact ⟨resolved, (serves other cluster found).2⟩
  · unfold Manager.get at looked
    rw [AList.lookup_insert_ne same] at looked
    exact serves other present looked

theorem Serves.performOn (serves : Serves upstreams manager) (name : Text) (readings : Readings)
    (call : ClusterCall)
    (given : ∀ endpoints, call = .updateEndpoints endpoints → AllIp endpoints) :
    Serves upstreams (performOn manager name readings call) := by
  unfold Proxy.performOn
  split
  · exact serves
  · rename_i cluster found
    exact serves.insert found
      (perform_resolved (serves name cluster found).1 readings call given)
      (cluster.perform_config readings call)

theorem upstreamPeer_forwarded {admitted : Bool} {readings : Readings} {forwarded : Forwarded}
    (reached : (upstreamPeer manager ctx admitted draw readings).forwarded = some forwarded) :
    ∃ cluster, manager.get forwarded.upstream = some cluster ∧
      (cluster.selectEndpoint draw readings).selected = some forwarded.endpoint ∧
      forwarded.peer = (resolveEndpointAddr forwarded.endpoint >>=
        UpstreamPeerBuilder.build ctx cluster.config
          (endpointHostForSni cluster.config forwarded.endpoint)) := by
  unfold upstreamPeer at reached
  split at reached
  · cases reached
  · split at reached
    · cases reached
    · rename_i cluster found
      split at reached
      · dsimp only at reached
        split at reached
        · cases reached
        · rename_i endpoint selected
          cases reached
          exact ⟨cluster, found, selected, rfl⟩
      · cases reached

theorem Serves.upstreamPeer (serves : Serves upstreams manager) (ctx : RouterContext)
    (admitted : Bool) (draw : Nat) (readings : Readings) :
    Serves upstreams (upstreamPeer manager ctx admitted draw readings).manager := by
  unfold Proxy.upstreamPeer
  split
  · exact serves
  · split
    · exact serves
    · rename_i name _ cluster found
      split
      · have kept := serves.insert found
          (perform_resolved (serves _ cluster found).1 readings (.selectEndpoint draw)
            (fun _ same => (nomatch same)))
          (cluster.perform_config readings (.selectEndpoint draw))
        dsimp only
        split <;> exact kept
      · exact serves

theorem requestFilter_sniOverride {route : Route} {authorized : Bool} {after : RouterContext}
    (ran : requestFilter route authorized draw ctx = some after) :
    after.sniOverride = ctx.sniOverride := by
  have rewritten : (setRewrittenHost ctx route.policy.rewrite.host).sniOverride =
      ctx.sniOverride := by
    unfold setRewrittenHost
    split <;> rfl
  unfold requestFilter at ran
  dsimp only at ran
  split at ran
  · split at ran
    · cases ran
    · cases ran
    · split at ran
      · cases ran
        exact rewritten
      · split at ran
        all_goals
          cases ran
          exact rewritten
  · cases ran

theorem proxyStep_cases {step : Step Manager ProxyAction (Option Forwarded)}
    (accepted : step.Accepted proxyStep) :
    (∃ ctx admitted draw readings, ctx.sniOverride = none ∧
      step.after = (upstreamPeer step.before ctx admitted draw readings).manager ∧
      step.output = (upstreamPeer step.before ctx admitted draw readings).forwarded) ∨
    step.output = none ∧ (step.after = step.before ∨ ∃ name readings call,
      (∀ endpoints, call = .updateEndpoints endpoints → AllIp endpoints) ∧
      step.after = performOn step.before name readings call) := by
  obtain ⟨before, action, after, output⟩ := step
  change proxyStep before action = some (after, output) at accepted
  unfold proxyStep at accepted
  cases action with
  | request route authorized admitted pick draw readings =>
    dsimp only at accepted
    split at accepted
    · cases accepted
      exact .inr ⟨rfl, .inl rfl⟩
    · rename_i ctx filtered
      cases accepted
      exact .inl ⟨ctx, admitted, draw, readings, requestFilter_sniOverride filtered, rfl, rfl⟩
  | resolve task lookup readings =>
    dsimp only at accepted
    split at accepted
    · cases accepted
      exact .inr ⟨rfl, .inl rfl⟩
    · rename_i update ran
      cases accepted
      refine .inr ⟨rfl, .inr ⟨_, readings, _, ?_, rfl⟩⟩
      intro endpoints same endpoint member
      cases same
      exact isIp_of_derived (resolveUpstream_derived ran endpoint member)
  | setActiveHealth | recordOutcome =>
    cases accepted
    refine .inr ⟨rfl, .inr ⟨_, _, _, ?_, rfl⟩⟩
    intro endpoints same
    cases same

theorem Serves.step {step : Step Manager ProxyAction (Option Forwarded)}
    (accepted : step.Accepted proxyStep) (serves : Serves upstreams step.before) :
    Serves upstreams step.after := by
  rcases proxyStep_cases accepted with ⟨ctx, admitted, draw, readings, _, after, _⟩ |
    ⟨_, after | ⟨name, readings, call, given, after⟩⟩
  · rw [after]
    exact serves.upstreamPeer ctx admitted draw readings
  · rw [after]
    exact serves
  · rw [after]
    exact serves.performOn name readings call given

/-! ### Which upstreams have a name -/

def dnsHosts (endpoints : List Endpoint) : List Text :=
  endpoints.filterMap fun endpoint =>
    match endpoint.address with
    | .dns host _ => some host
    | .ip _ _ => none

/-- The configuration gives a canonical or an explicit name, or the names of a
resolved upstream all agree. A rewritten host is no source of a name. -/
def NamesServer (upstream : Upstream) (settings : TlsSettings) : Prop :=
  match settings.canonicalSni, settings.sni with
  | .enabled name, _ => name ≠ []
  | .disabled, .name name => name ≠ []
  | .disabled, .disabled => False
  | .disabled, .auto =>
    upstream.discovery.isResolved = true ∧
      ∃ host, host ≠ [] ∧ dnsHosts upstream.endpoints ≠ [] ∧
        ∀ other ∈ dnsHosts upstream.endpoints, other = host

def ObtainsName (peer : Except PeerError HttpPeer) : Prop :=
  ∃ made, peer = .ok made ∧ made.sni ≠ []

private theorem agreedHost_some (existing host : Text) (endpoints : List Endpoint) :
    agreedHost (some existing) endpoints = some host ↔
      existing = host ∧ ∀ other ∈ dnsHosts endpoints, other = host := by
  induction endpoints with
  | nil => simp [agreedHost, dnsHosts]
  | cons endpoint rest ih =>
    unfold agreedHost dnsHosts
    cases address : endpoint.address with
    | ip =>
      rw [List.filterMap_cons_none (by rw [address])]
      exact ih
    | dns name =>
      rw [List.filterMap_cons_some (by rw [address]), List.forall_mem_cons]
      dsimp only
      by_cases same : existing = name
      · rw [if_pos same, ih]
        subst same
        exact ⟨fun agreed => ⟨agreed.1, agreed.1, agreed.2⟩,
          fun agreed => ⟨agreed.1, agreed.2.2⟩⟩
      · rw [if_neg same]
        constructor
        · intro impossible
          cases impossible
        · intro agreed
          exact absurd (agreed.1.trans agreed.2.1.symm) same

theorem agreedHost_none (host : Text) (endpoints : List Endpoint) :
    agreedHost none endpoints = some host ↔
      dnsHosts endpoints ≠ [] ∧ ∀ other ∈ dnsHosts endpoints, other = host := by
  induction endpoints with
  | nil => simp [agreedHost, dnsHosts]
  | cons endpoint rest ih =>
    unfold agreedHost dnsHosts
    cases address : endpoint.address with
    | ip =>
      rw [List.filterMap_cons_none (by rw [address])]
      exact ih
    | dns =>
      rw [List.filterMap_cons_some (by rw [address]), List.forall_mem_cons]
      dsimp only
      rw [agreedHost_some]
      exact ⟨fun agreed => ⟨List.cons_ne_nil _ _, agreed⟩, fun agreed => agreed.2⟩

private theorem sniValue_named_iff (noOverride : ctx.sniOverride = none) (upstream : Upstream)
    (settings : TlsSettings) (isIp : endpoint.address.isDns = false) :
    (∃ name, sniValue settings ctx (endpointHostForSni upstream endpoint) = some name ∧
      name ≠ []) ↔ NamesServer upstream settings := by
  have fromEndpoints : (∃ name, endpointHostForSni upstream endpoint = some name ∧ name ≠ []) ↔
      upstream.discovery.isResolved = true ∧
        ∃ host, host ≠ [] ∧ dnsHosts upstream.endpoints ≠ [] ∧
          ∀ other ∈ dnsHosts upstream.endpoints, other = host := by
    unfold endpointHostForSni
    cases address : endpoint.address with
    | dns =>
      rw [address] at isIp
      cases isIp
    | ip =>
      dsimp only
      cases upstream.discovery.isResolved with
      | false => simp
      | true =>
        simp only [if_true, agreedHost_none, true_and]
        exact ⟨fun ⟨host, agreed, nonempty⟩ => ⟨host, nonempty, agreed⟩,
          fun ⟨host, nonempty, agreed⟩ => ⟨host, agreed, nonempty⟩⟩
  unfold sniValue NamesServer
  cases settings.canonicalSni with
  | enabled => simp
  | disabled =>
    cases settings.sni with
    | name | disabled => cases settings.reuseAcrossSni <;> simp [resolveSni]
    | auto =>
      dsimp only
      rw [← fromEndpoints]
      cases settings.reuseAcrossSni with
      | enabled => exact Iff.rfl
      | disabled =>
        unfold resolveSni
        rw [noOverride, Option.none_or]

private theorem obtainsName_iff (noOverride : ctx.sniOverride = none) {upstream : Upstream}
    {settings : TlsSettings} (tls : upstream.tls = .enabled settings)
    (full : settings.verify = .full) (isIp : endpoint.address.isDns = false) :
    ObtainsName (resolveEndpointAddr endpoint >>=
        UpstreamPeerBuilder.build ctx upstream (endpointHostForSni upstream endpoint)) ↔
      NamesServer upstream settings := by
  rw [← sniValue_named_iff noOverride upstream settings isIp]
  unfold ObtainsName
  constructor
  · intro obtained
    obtain ⟨made, ran, nonempty⟩ := obtained
    obtain ⟨addr, _, later⟩ := bind_eq_ok.mp ran
    unfold UpstreamPeerBuilder.build at later
    rw [tls] at later
    obtain ⟨_, named, same⟩ := bind_eq_ok.mp later
    cases same
    cases value : sniValue settings ctx (endpointHostForSni upstream endpoint) with
    | none => exact absurd ⟨full, value⟩ (reject_eq_ok.mp named)
    | some name =>
      rw [value] at nonempty
      exact ⟨name, rfl, nonempty⟩
  · intro named
    obtain ⟨name, value, nonempty⟩ := named
    cases address : endpoint.address with
    | dns =>
      rw [address] at isIp
      cases isIp
    | ip ip port =>
      refine ⟨{ address := { ip := ip, port := port.value }, useTls := true, sni := name,
                verifyMode := some settings.verify }, ?_, nonempty⟩
      apply bind_eq_ok.mpr
      refine ⟨{ ip := ip, port := port.value }, ?_, ?_⟩
      · unfold resolveEndpointAddr
        rw [address]
      · unfold UpstreamPeerBuilder.build
        rw [tls]
        apply bind_eq_ok.mpr
        refine ⟨(), reject_eq_ok.mpr ?_, ?_⟩
        · rw [value]
          exact fun missing => (nomatch missing.2)
        · rw [value]
          rfl

/-- In every run of the clusters of a validated configuration, a request forwarded
to an upstream that verifies its server obtains a server name exactly when the
configuration of that upstream names one. -/
theorem forwarded_named_iff {engine : RegexEngine} {cache after : PatternCache engine}
    {config : RuntimeConfig} {validated : ValidatedRuntimeConfig engine}
    (accepted : validateRuntime cache config = .ok (validated, after))
    {surroundings : Surroundings} {materialized : MaterializedRuntimeConfig}
    (built : MaterializedRuntimeConfig.build surroundings validated = .ok materialized)
    {steps : List (Step Manager ProxyAction (Option Forwarded))}
    (isRun : IsRun proxyStep materialized.upstreamManager steps) :
    ∀ step ∈ steps, ∀ forwarded, step.output = some forwarded →
      ∀ upstream ∈ config.upstreams, upstream.name = forwarded.upstream →
        ∀ settings, upstream.tls = .enabled settings → settings.verify = .full →
          (ObtainsName forwarded.peer ↔ NamesServer upstream settings) := by
  cases validateRuntime_runtime accepted
  intro step member forwarded output upstream listed named settings tls full
  obtain ⟨index, found⟩ := List.getElem?_of_mem member
  have serves := isRun.invariant_before (Serves validated.runtime.upstreams)
    (serves_of_build (MaterializedRuntimeConfig.build_manager built)) (fun _ => Serves.step) found
  rcases proxyStep_cases (isRun.accepted_at found) with
    ⟨ctx, admitted, draw, readings, noOverride, _, reached⟩ | ⟨silent, _⟩
  swap
  · cases silent.symm.trans output
  obtain ⟨cluster, present, selected, peer⟩ := upstreamPeer_forwarded (reached.symm.trans output)
  obtain ⟨resolved, configured, clusterName⟩ := serves forwarded.upstream cluster present
  -- Names are distinct, so the cluster is the one of this upstream.
  have same : cluster.config = upstream :=
    List.inj_on_of_nodup_map validated.accepted.upstreams configured listed
      (clusterName.trans named.symm)
  rw [peer, same]
  exact obtainsName_iff noOverride tls full (selected_isIp resolved selected)

/-! ### A rewritten host beside a DNS name -/

def verifiedTls : TlsSettings :=
  { verify := .full
    sni := .auto
    canonicalSni := .disabled
    reuseAcrossSni := .disabled
    cert := .disabled
    ca := .system }

def rewritingRoute : Route :=
  { matcher := { path := .prefixed (literal "/"), method := .any, headers := .none }
    policy := { forwardTo (literal "api") with
      rewrite := { path := .disabled, host := .literal (literal "api.example") } } }

def verifiedConfig (discovery : Discovery) (address : EndpointAddr) : RuntimeConfig :=
  { emptyConfig with
    upstreams :=
      [{ UpstreamBuilder.build (.constant 1) (literal "api")
          [{ address := address, weight := .constant 1 }] with
         discovery := discovery
         tls := .enabled verifiedTls }]
    routes := [{ host := literal "example.com", paths := [rewritingRoute] }] }

def addressConfig : RuntimeConfig :=
  verifiedConfig .static (.ip (.v4 10 0 0 1) (.constant 443))

def namedConfig : RuntimeConfig :=
  verifiedConfig .logical (.dns (literal "api.example") (.constant 443))

theorem rewriting_builds {config : RuntimeConfig}
    (passes : (checkRuntime (PatternCache.empty wordEngine) config).isOk = true)
    {upstream : Upstream} (alike : config = { addressConfig with upstreams := [upstream] })
    (endpoints : upstream.endpoints ≠ []) :
    ∃ validated after materialized,
      validateRuntime (PatternCache.empty wordEngine) config = .ok (validated, after) ∧
      MaterializedRuntimeConfig.build channelSurroundings validated = .ok materialized ∧
      Manager.build channelSurroundings.lookups channelSurroundings.loadsMaterials
        channelSurroundings.clock config.upstreams = .ok materialized.upstreamManager := by
  refine validate_and_build channelSurroundings ?_ ?_ ?_ ?_ passes
  · intro other listed
    rw [alike] at listed
    cases List.mem_singleton.mp listed
    exact endpoints
  · have within : RegexesWithinLimits channelSurroundings.compiler .default
        [{ host := literal "example.com", paths := [rewritingRoute] }] :=
      ⟨by decide, by decide, by decide⟩
    rw [alike]
    exact within
  · intro other _ endpoint _ host port _
    exact ⟨.v4 192 0 2 7, [], rfl⟩
  · intro other _
    rfl

def noTime : Readings := .at 0

def forwardOnce : ProxyAction := .request rewritingRoute true true 0 0 noTime

def forwardedPeers (manager : Manager) (actions : List ProxyAction) :
    List (Option (Text × Except PeerError HttpPeer)) :=
  (trace proxyStep manager actions).map fun step =>
    step.output.map fun forwarded => (forwarded.upstream, forwarded.peer)

/-- The validator accepts the rewritten host in place of a name, the proxy does not. -/
theorem rewritten_host_gives_no_name :
    ∃ validated after materialized,
      validateRuntime (PatternCache.empty wordEngine) addressConfig = .ok (validated, after) ∧
      MaterializedRuntimeConfig.build channelSurroundings validated = .ok materialized ∧
      addressConfig.HasRoute rewritingRoute ∧
      forwardedPeers materialized.upstreamManager [forwardOnce] =
        [some (literal "api", .error .verifyFullRequiresSni)] := by
  have passes : (checkRuntime (PatternCache.empty wordEngine) addressConfig).isOk = true := by
    decide +kernel
  obtain ⟨validated, after, materialized, accepted, built, managed⟩ :=
    rewriting_builds passes rfl (List.cons_ne_nil _ _)
  refine ⟨validated, after, materialized, accepted, built,
    ⟨_, List.mem_singleton_self _, List.mem_singleton_self _⟩, ?_⟩
  have evaluated : (Manager.build channelSurroundings.lookups channelSurroundings.loadsMaterials
      channelSurroundings.clock addressConfig.upstreams).map
        (fun manager => forwardedPeers manager [forwardOnce]) =
      .ok [some (literal "api", .error .verifyFullRequiresSni)] := rfl
  rw [managed] at evaluated
  exact Except.ok.inj evaluated

def resolveThenForward : List ProxyAction :=
  [ .resolve
      { name := literal "api"
        config := { UpstreamBuilder.build (.constant 1) (literal "api")
            [{ address := .dns (literal "api.example") (.constant 443)
               weight := .constant 1 }] with
          discovery := .logical
          tls := .enabled verifiedTls }
        current := [] }
      (fun _ _ => some [.v4 192 0 2 8]) noTime,
    forwardOnce ]

theorem forwarded_named_iff_resolved :
    ∃ validated after materialized,
      validateRuntime (PatternCache.empty wordEngine) namedConfig = .ok (validated, after) ∧
      MaterializedRuntimeConfig.build channelSurroundings validated = .ok materialized ∧
      ∃ step ∈ trace proxyStep materialized.upstreamManager resolveThenForward,
        ∃ forwarded, step.output = some forwarded ∧
          forwarded.endpoint.address = .ip (.v4 192 0 2 8) ⟨443, by decide, by decide⟩ ∧
          ObtainsName forwarded.peer := by
  have passes : (checkRuntime (PatternCache.empty wordEngine) namedConfig).isOk = true := by
    decide +kernel
  obtain ⟨validated, after, materialized, accepted, built, managed⟩ :=
    rewriting_builds passes rfl (List.cons_ne_nil _ _)
  refine ⟨validated, after, materialized, accepted, built, ?_⟩
  have evaluated : (Manager.build channelSurroundings.lookups channelSurroundings.loadsMaterials
      channelSurroundings.clock namedConfig.upstreams).map
        (fun manager => (trace proxyStep manager resolveThenForward).filterMap fun step =>
          step.output.map fun forwarded => (forwarded.upstream, forwarded.endpoint.address)) =
      .ok [(literal "api", .ip (.v4 192 0 2 8) ⟨443, by decide, by decide⟩)] := rfl
  rw [managed] at evaluated
  have listed := Except.ok.inj evaluated ▸ List.mem_singleton_self _
  obtain ⟨step, member, output⟩ := List.mem_filterMap.mp listed
  obtain ⟨forwarded, sent, address⟩ := Option.map_eq_some_iff.mp output
  obtain ⟨name, endpoint⟩ := Prod.mk.inj address
  refine ⟨step, member, forwarded, sent, endpoint, ?_⟩
  apply (forwarded_named_iff accepted built (trace_isRun _ _ _) step member forwarded sent _
    (List.mem_singleton_self _) name.symm verifiedTls rfl rfl).mpr
  exact ⟨rfl, literal "api.example", by decide, by decide, by decide⟩

end Pavis.Proxy
