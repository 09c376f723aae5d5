/-
The name a health probe is sent under.

A probe is a request for a URL: the client verifies the certificate against the
host of the URL and, where no host header is set, derives one from the URL in a way
that is a parameter here.
-/

import Pavis.Config.Address
import Pavis.Library.UrlAuthority
import Pavis.Proxy.ServerName
import Pavis.Upstream.HealthProbe

namespace Pavis.Proxy

open ByteText Config DigitText Fallible KeyedMap LabelledRun State Upstream UrlAuthority
open Routing (RegexEngine wordEngine)

private theorem displaySegments_colon (first second : Nat) (later : List Nat) :
    0 < (displaySegments (first :: second :: later)).countP isColon := by
  rw [displaySegments_eq_spelledGroups, spelledGroups, spelledGroups_succ, List.countP_append,
    List.flatMap_cons, List.cons_append, List.countP_cons_of_pos (by decide)]
  omega

private theorem displayIpv6_colon (first second : Nat) (later : List Nat) :
    0 < (displayIpv6 (first :: second :: later)).countP isColon := by
  unfold displayIpv6
  dsimp only
  split
  · rw [List.countP_append, List.countP_append, show (literal "::").countP isColon = 2 by decide]
    omega
  · exact displaySegments_colon first second later

private theorem display_v6_colon (a b c d e f g h : UInt16) :
    0 < (IpAddr.v6 a b c d e f g h).display.countP isColon := by
  unfold IpAddr.display
  split
  · rename_i impossible
    cases impossible
  · rw [List.countP_append, show (literal "::ffff:").countP isColon = 3 by decide]
    omega
  · exact displayIpv6_colon _ _ _

theorem isAuthority_of_addressBytes {text : Text}
    (bytes : ∀ byte ∈ text, isAddressByte byte = true) : IsAuthority text := by
  constructor
  · rw [contains_eq_false]
    intro member
    have known := bytes _ member
    revert known
    decide
  · intro byte member
    cases ends : endsAuthority byte with
    | false => rfl
    | true =>
      have known := bytes byte member
      unfold endsAuthority at ends
      simp only [Bool.or_eq_true, beq_iff_eq] at ends
      rcases ends with (rfl | rfl) | rfl
      all_goals
        revert known
        decide

theorem head_of_addressBytes {text : Text} (bytes : ∀ byte ∈ text, isAddressByte byte = true) :
    text.head? ≠ some (ascii '[') := by
  intro bracket
  have known := bytes (ascii '[') (List.mem_of_mem_head? bracket)
  revert known
  decide

def serverName (url : Text) : Option Text :=
  (readUrl url).map fun authority =>
    match authority.host with
    | .literal address => address
    | .name text => text

def hostSent (defaultHost : Text → Option Text) (request : ProbeRequest) : Option Text :=
  request.hostHeader.or (defaultHost request.url)

structure ProbedAs (defaultHost : Text → Option Text) (request : ProbeRequest) (name : Text) :
    Prop where
  verified : serverName request.url = some name
  sent : hostSent defaultHost request = some name

def hostPort (endpoint : EndpointAddr) : Text :=
  EndpointAddr.urlHost endpoint ++ ascii ':' :: decimal endpoint.port.value

theorem hostPort_bytes (address : IpAddr) (port : Port) :
    ∀ byte ∈ hostPort (.ip address port), isAddressByte byte = true := by
  intro byte member
  rcases List.mem_append.mp member with shown | later
  · exact display_addressBytes address byte shown
  · rcases List.mem_cons.mp later with rfl | digit
    · rfl
    · exact isAddressByte_of_digit (by decide) (decimal_digits _ byte digit)

private theorem alphanumeric_of_digit : ∀ byte : UInt8, isDigit 10 byte = true →
    isAsciiAlphanumeric byte = true := by
  refine forall_byte ?_
  decide +kernel

theorem readHostPort_address (address : IpAddr) (port : Port) :
    readHostPort (hostPort (.ip address port)) =
      match address with
      | .v4 a b c d =>
        some { host := .name (displayIpv4 a b c d), port := some (decimal port.value) }
      | .v6 _ _ _ _ _ _ _ _ => none := by
  cases address with
  | v4 a b c d =>
    have bytes : ∀ byte ∈ displayIpv4 a b c d, isNameByte byte = true := by
      intro byte member
      rcases displayIpv4_bytes a b c d byte member with digit | rfl
      · rw [isNameByte, alphanumeric_of_digit byte digit]
        rfl
      · decide
    have nonempty : displayIpv4 a b c d ≠ [] := by
      intro empty
      have shown := congrArg List.length (displayIpv4_append a b c d [])
      rw [show displayIpv4 a b c d = [] from empty] at shown
      simp at shown
    exact readHostPort_append nonempty (isRegName_of_nameBytes bytes) (decimal_digits port.value)
  | v6 a b c d e f g h =>
    rw [readHostPort_unbracketed (head_of_addressBytes (hostPort_bytes _ port))]
    apply readNamedHost_colons
    have colon := display_v6_colon a b c d e f g h
    rw [hostPort, EndpointAddr.urlHost, List.countP_append, List.countP_cons_of_pos (by decide)]
    omega

variable {config : Upstream}

private theorem build_plan {clientBuilds : Bool} {name : Text} {plan : HealthProbePlan}
    (planned : HealthProbePlan.build clientBuilds name config = .ok (some plan)) :
    (∃ interval timeout, config.healthCheck = .enabled plan.path interval timeout) ∧
      contains plan.scheme (ascii ':') = false := by
  unfold HealthProbePlan.build at planned
  split at planned
  · cases planned
  · rename_i path interval timeout enabled
    obtain ⟨client, _, same⟩ := bind_eq_ok.mp planned
    cases same
    refine ⟨⟨interval, timeout, enabled⟩, ?_⟩
    dsimp only
    split <;> decide

private theorem endsUrl_of_slash {path : Text} (absolute : startsWith path (literal "/") = true) :
    EndsUrl path := by
  obtain ⟨rest, rfl⟩ := List.isPrefixOf_iff_prefix.mp absolute
  intro byte member
  cases member
  decide

theorem readUrl_request {clientBuilds : Bool} {name : Text} (accepted : config.Accepted)
    {plan : HealthProbePlan}
    (planned : HealthProbePlan.build clientBuilds name config = .ok (some plan))
    {endpoint : EndpointAddr} (own : IsAuthority (hostPort endpoint)) :
    readUrl (plan.request config endpoint).url = readHostPort (hostPort endpoint) := by
  obtain ⟨⟨interval, timeout, enabled⟩, scheme⟩ := build_plan planned
  have absolute := (accepted.healthCheck plan.path interval timeout enabled).1
  have apart : (plan.request config endpoint).url =
      plan.scheme ++ literal "://" ++ hostPort endpoint ++ plan.path := by
    simp [HealthProbePlan.request, hostPort, literal]
  rw [apart, readUrl_authority scheme own (endsUrl_of_slash absolute)]

private theorem serverName_request {clientBuilds : Bool} {name : Text} (accepted : config.Accepted)
    {plan : HealthProbePlan}
    (planned : HealthProbePlan.build clientBuilds name config = .ok (some plan)) (address : IpAddr)
    (port : Port) :
    serverName (plan.request config (.ip address port)).url =
      match address with
      | .v4 a b c d => some (displayIpv4 a b c d)
      | .v6 _ _ _ _ _ _ _ _ => none := by
  have own := isAuthority_of_addressBytes (hostPort_bytes address port)
  rw [serverName, readUrl_request accepted planned own, readHostPort_address]
  cases address with
  | v4 | v6 => rfl

def setsName (settings : TlsSettings) : Bool :=
  match settings.canonicalSni, settings.sni with
  | .enabled _, _ => true
  | .disabled, .name _ => true
  | .disabled, _ => false

private theorem healthCheckHost_ip {settings : TlsSettings} (tls : config.tls = .enabled settings)
    (address : IpAddr) (port : Port) (endpointHost : Option Text) :
    healthCheckHost config (.ip address port) =
      if setsName settings then sniValue settings newCtx endpointHost else none := by
  unfold healthCheckHost setsName sniValue
  rw [tls]
  dsimp only
  cases settings.canonicalSni with
  | enabled => rfl
  | disabled => cases settings.reuseAcrossSni <;> cases settings.sni <;> rfl

theorem sniValue_of_peer {ctx : RouterContext} {upstream : Upstream} {settings : TlsSettings}
    (tls : upstream.tls = .enabled settings) {endpointHost : Option Text} {addr : SocketAddr}
    {peer : HttpPeer} (made : UpstreamPeerBuilder.build ctx upstream endpointHost addr = .ok peer)
    (named : peer.sni ≠ []) : sniValue settings ctx endpointHost = some peer.sni := by
  unfold UpstreamPeerBuilder.build at made
  rw [tls] at made
  obtain ⟨_, _, same⟩ := bind_eq_ok.mp made
  cases same
  cases value : sniValue settings ctx endpointHost with
  | none =>
    rw [value] at named
    exact absurd rfl named
  | some => rfl

/-- In every run of the clusters of a validated configuration, an endpoint that a
cluster holds is probed under the name the proxy would use for it exactly when
that name is the text of its IPv4 address and is set, or derived, as host header. -/
theorem probed_as_server_name_iff {engine : RegexEngine} {cache after : PatternCache engine}
    {config : RuntimeConfig} {validated : ValidatedRuntimeConfig engine}
    (accepted : validateRuntime cache config = .ok (validated, after))
    {surroundings : Surroundings} {materialized : MaterializedRuntimeConfig}
    (built : MaterializedRuntimeConfig.build surroundings validated = .ok materialized)
    {steps : List (Step Manager ProxyAction (Option Forwarded))}
    (isRun : IsRun proxyStep materialized.upstreamManager steps) {manager : Manager}
    (visited : Visits materialized.upstreamManager steps manager) {name : Text}
    {cluster : Cluster} (found : manager.get name = some cluster) {settings : TlsSettings}
    (tls : cluster.config.tls = .enabled settings) {clientBuilds : Bool} {plan : HealthProbePlan}
    (planned : HealthProbePlan.build clientBuilds name cluster.config = .ok (some plan))
    {endpoint : Endpoint} (held : endpoint ∈ cluster.currentEndpoints) {peer : HttpPeer}
    (made : (resolveEndpointAddr endpoint >>= UpstreamPeerBuilder.build newCtx cluster.config
      (endpointHostForSni cluster.config endpoint)) = .ok peer)
    (named : peer.sni ≠ []) (defaultHost : Text → Option Text) :
    ProbedAs defaultHost (plan.request cluster.config endpoint.address) peer.sni ↔
      (∃ a b c d port, endpoint.address = .ip (.v4 a b c d) port ∧
        peer.sni = displayIpv4 a b c d) ∧
      (setsName settings = true ∨
        defaultHost (plan.request cluster.config endpoint.address).url = some peer.sni) := by
  cases validateRuntime_runtime accepted
  have serves := isRun.invariant_visited (Serves validated.runtime.upstreams)
    (serves_of_build (MaterializedRuntimeConfig.build_manager built)) (fun _ => Serves.step) visited
  obtain ⟨resolved, configured, _⟩ := serves name cluster found
  have upstreamAccepted := validated.accepted.eachUpstream cluster.config configured
  obtain ⟨addr, _, built⟩ := bind_eq_ok.mp made
  have value := sniValue_of_peer tls built named
  have isIp := resolved.current endpoint held
  obtain ⟨address, weight⟩ := endpoint
  cases address with
  | dns => cases isIp
  | ip address port =>
    have url := serverName_request upstreamAccepted planned address port
    have header := healthCheckHost_ip tls address port
      (endpointHostForSni cluster.config { address := .ip address port, weight := weight })
    rw [value] at header
    have sent : hostSent defaultHost (plan.request cluster.config (.ip address port)) =
        some peer.sni ↔ setsName settings = true ∨
          defaultHost (plan.request cluster.config (.ip address port)).url = some peer.sni := by
      unfold hostSent
      rw [show (plan.request cluster.config (.ip address port)).hostHeader =
        healthCheckHost cluster.config (.ip address port) from rfl, header]
      cases setsName settings with
      | true | false => simp
    have verified : serverName (plan.request cluster.config (.ip address port)).url =
        some peer.sni ↔ ∃ a b c d other, EndpointAddr.ip address port = .ip (.v4 a b c d) other ∧
          peer.sni = displayIpv4 a b c d := by
      rw [url]
      cases address with
      | v4 a b c d =>
        constructor
        · intro same
          exact ⟨a, b, c, d, port, rfl, (Option.some.inj same).symm⟩
        · rintro ⟨_, _, _, _, _, same, shown⟩
          cases same
          rw [shown]
      | v6 =>
        constructor
        · intro impossible
          cases impossible
        · rintro ⟨_, _, _, _, _, same, _⟩
          cases same
    rw [← sent, ← verified]
    exact ⟨fun probed => ⟨probed.verified, probed.sent⟩, fun both => ⟨both.1, both.2⟩⟩

def checkedConfig (discovery : Discovery) (address : EndpointAddr) (sni : SniName) :
    RuntimeConfig :=
  { verifiedConfig discovery address with
    upstreams :=
      [{ UpstreamBuilder.build (.constant 1) (literal "api")
          [{ address := address, weight := .constant 1 }] with
         discovery := discovery
         healthCheck := .enabled (literal "/health") (.constant 1000) (.constant 100)
         tls := .enabled { verifiedTls with sni := sni } }] }

def probesAndNames (manager : Manager) (name : Text) : List (ProbeRequest × Option Text) :=
  match manager.get name with
  | none => []
  | some cluster =>
    match HealthProbePlan.build true name cluster.config with
    | .ok (some plan) => cluster.currentEndpoints.map fun endpoint =>
      (plan.request cluster.config endpoint.address,
        (resolveEndpointAddr endpoint >>= UpstreamPeerBuilder.build newCtx cluster.config
          (endpointHostForSni cluster.config endpoint)).toOption.map HttpPeer.sni)
    | _ => []

def namedCheck : RuntimeConfig :=
  checkedConfig .logical (.dns (literal "api.example") (.constant 443)) .auto

/-- The proxy verifies the server as the configured name, the probe as its address. -/
theorem probe_verifies_address :
    ∃ validated after materialized,
      validateRuntime (PatternCache.empty wordEngine) namedCheck = .ok (validated, after) ∧
      MaterializedRuntimeConfig.build channelSurroundings validated = .ok materialized ∧
      probesAndNames materialized.upstreamManager (literal "api") =
        [({ url := literal "https://192.0.2.7:443/health", hostHeader := none },
          some (literal "api.example"))] ∧
      serverName (literal "https://192.0.2.7:443/health") = some (literal "192.0.2.7") := by
  have passes : (checkRuntime (PatternCache.empty wordEngine) namedCheck).isOk = true := by
    decide +kernel
  obtain ⟨validated, after, materialized, accepted, built, managed⟩ :=
    rewriting_builds passes rfl (List.cons_ne_nil _ _)
  refine ⟨validated, after, materialized, accepted, built, ?_, by decide +kernel⟩
  have evaluated : (Manager.build channelSurroundings.lookups channelSurroundings.loadsMaterials
      channelSurroundings.clock namedCheck.upstreams).map
        (fun manager => probesAndNames manager (literal "api")) =
      .ok [({ url := literal "https://192.0.2.7:443/health", hostHeader := none },
        some (literal "api.example"))] := by
    decide +kernel
  rw [managed] at evaluated
  exact Except.ok.inj evaluated

def addressCheck : RuntimeConfig :=
  checkedConfig .static (.ip (.v4 10 0 0 1) (.constant 443)) (.name (literal "10.0.0.1"))

def addressEndpoint : Endpoint :=
  { address := .ip (.v4 10 0 0 1) (.constant 443), weight := .constant 1 }

def addressPlan : HealthProbePlan :=
  { upstream := literal "api"
    path := literal "/health"
    interval := .constant 1000
    scheme := literal "https"
    client := { timeout := .constant 100 } }

def addressPeer : HttpPeer :=
  { address := { ip := .v4 10 0 0 1, port := 443 }
    useTls := true
    sni := literal "10.0.0.1"
    verifyMode := some .full }

theorem probed_as_server_name_iff_addressCheck :
    ∃ validated after materialized cluster,
      validateRuntime (PatternCache.empty wordEngine) addressCheck = .ok (validated, after) ∧
      MaterializedRuntimeConfig.build channelSurroundings validated = .ok materialized ∧
      materialized.upstreamManager.get (literal "api") = some cluster ∧
      addressEndpoint ∈ cluster.currentEndpoints ∧
      ProbedAs serverName (addressPlan.request cluster.config addressEndpoint.address)
        addressPeer.sni := by
  have passes : (checkRuntime (PatternCache.empty wordEngine) addressCheck).isOk = true := by
    decide +kernel
  obtain ⟨validated, after, materialized, accepted, built, managed⟩ :=
    rewriting_builds passes rfl (List.cons_ne_nil _ _)
  obtain ⟨cluster, found⟩ := Manager.get_of_mem managed (List.mem_singleton_self _)
  obtain ⟨upstream, listed, _, config, _, resolved⟩ := Manager.cluster_of_build managed found
  cases List.mem_singleton.mp listed
  have current : cluster.currentEndpoints = [addressEndpoint] := (Except.ok.inj resolved).symm
  have held : addressEndpoint ∈ cluster.currentEndpoints :=
    current ▸ List.mem_singleton_self addressEndpoint
  have planned : HealthProbePlan.build true (literal "api") cluster.config =
      .ok (some addressPlan) := by
    rw [config]
    rfl
  have made : (resolveEndpointAddr addressEndpoint >>= UpstreamPeerBuilder.build newCtx
      cluster.config (endpointHostForSni cluster.config addressEndpoint)) = .ok addressPeer := by
    rw [config]
    rfl
  refine ⟨validated, after, materialized, cluster, accepted, built, found, held, ?_⟩
  apply (probed_as_server_name_iff accepted built
    (show IsRun proxyStep materialized.upstreamManager [] from trivial) (Or.inl rfl) found
    (by rw [config]) planned held made (by decide) serverName).mpr
  have derived : serverName (literal "https://10.0.0.1:443/health") = some addressPeer.sni := by
    decide +kernel
  exact ⟨⟨10, 0, 0, 1, .constant 443, rfl, by decide⟩, Or.inr derived⟩

end Pavis.Proxy
