/-
What a validated configuration satisfies.

Each check is read once. A configuration that passes them all carries what they
have found.
-/

import Pavis.Config.Validate

namespace Pavis.Config

open ByteText Fallible KeyedMap
open Routing (RegexEngine)

structure Upstream.Accepted (upstream : Upstream) : Prop where
  named : upstream.name ≠ []
  sni : ∀ settings, upstream.tls = .enabled settings → settings.verify = .full →
    settings.sni ≠ .disabled
  reuse : ∀ settings, upstream.tls = .enabled settings → settings.reuseAcrossSni = .enabled →
    settings.verify ≠ .disabled
  healthCheck : ∀ path interval timeout, upstream.healthCheck = .enabled path interval timeout →
    startsWith path (literal "/") = true ∧ contains path (ascii ' ') = false ∧
      timeout.value ≤ interval.value

structure RouteAccepted (engine : RegexEngine) (upstreamNames : List Text) (route : Route) :
    Prop where
  normalized : (matchKey route.matcher.path).1 ≠ .regex → IsNormalized (routePath route)
  compiles : ∀ pattern, route.matcher.path = .regex pattern → engine.compiles pattern = true
  keepsPath : ∀ pattern, route.matcher.path = .regex pattern →
    route.policy.rewrite.path = .disabled
  forwards : route.policy.action ≠ .forward []
  declared : ∀ destination ∈ route.policy.action.destinations,
    destination.upstream ∈ upstreamNames

/-- What every check of a configuration has found. -/
structure RuntimeConfig.Accepted (engine : RegexEngine) (config : RuntimeConfig) : Prop where
  listeners : (config.listeners.map Listener.name).Nodup
  hosts : (config.routes.map fun vhost => vhost.host).Nodup
  upstreams : (config.upstreams.map Upstream.name).Nodup
  eachUpstream : ∀ upstream ∈ config.upstreams, upstream.Accepted
  paths : ∀ vhost ∈ config.routes, (vhost.paths.map fun route => matchKey route.matcher.path).Nodup
  eachRoute : ∀ route, config.HasRoute route →
    RouteAccepted engine (config.upstreams.map Upstream.name) route
  serverName : ∀ upstream ∈ config.upstreams, ∀ settings, upstream.NeedsName settings →
    upstream.hasDns = true ∨ settings.reuseAcrossSni = .disabled ∧
      ∀ route, config.HasRoute route →
        ∀ destination ∈ route.policy.action.destinations, destination.upstream = upstream.name →
          route.policy.rewrite.host ≠ .disabled
  ports : ((portUses config).map Prod.fst).Nodup
  capabilities : ∀ capability ∈ config.requiredCapabilities, capability ∈ supportedCapabilities

variable {after : List Text} {upstream : Upstream} {config : RuntimeConfig} {engine : RegexEngine}
  {cache : PatternCache engine}

private theorem validateListener_ok {names : List Text} {listener : Listener}
    (ran : validateListener names listener = .ok after) :
    listener.name ∉ names ∧ after = listener.name :: names := by
  obtain ⟨_, fresh, later⟩ := bind_eq_ok.mp ran
  obtain ⟨_, _, same⟩ := bind_eq_ok.mp later
  cases same
  exact ⟨reject_eq_ok.mp fresh, rfl⟩

private theorem validateVirtualHost_ok {hosts : List Text} {vhost : VirtualHost}
    (ran : validateVirtualHost hosts vhost = .ok after) :
    vhost.host ∉ hosts ∧ after = vhost.host :: hosts := by
  obtain ⟨_, fresh, same⟩ := bind_eq_ok.mp ran
  cases same
  exact ⟨reject_eq_ok.mp fresh, rfl⟩

private theorem distinct_of_scan {α κ : Type} (key : α → κ)
    {step : List κ → α → CoreValidationResult (List κ)}
    (each : ∀ seen item after, step seen item = .ok after →
      key item ∉ seen ∧ after = key item :: seen)
    {items : List α} {seen final : List κ} (ran : items.foldlM step seen = .ok final) :
    (items.map key).Nodup := by
  refine (foldlM_distinct key (fun seen item => item ∈ seen) ?_ ?_ ?_ ran).1
  · intro before item after ranOne
    exact (each before item after ranOne).1
  · intro before item after ranOne
    rw [(each before item after ranOne).2]
    exact List.mem_cons_self
  · intro before item after ranOne other member
    rw [(each before item after ranOne).2]
    exact List.mem_cons_of_mem _ member

private theorem validateUpstreamTls_ok (ran : validateUpstreamTls upstream = .ok ())
    {settings : TlsSettings} (enabled : upstream.tls = .enabled settings) :
    (settings.verify = .full → settings.sni ≠ .disabled) ∧
      (settings.reuseAcrossSni = .enabled → settings.verify ≠ .disabled) := by
  unfold validateUpstreamTls at ran
  rw [enabled] at ran
  obtain ⟨_, named, reused⟩ := bind_eq_ok.mp ran
  constructor
  · intro full disabled
    exact reject_eq_ok.mp named ⟨full, disabled⟩
  · intro reuse disabled
    exact reject_eq_ok.mp reused ⟨disabled, reuse⟩

private theorem validateHealthCheck_ok (ran : validateHealthCheck upstream = .ok ()) {path : Text}
    {interval timeout : Duration}
    (enabled : upstream.healthCheck = .enabled path interval timeout) :
    startsWith path (literal "/") = true ∧ contains path (ascii ' ') = false ∧
      timeout.value ≤ interval.value := by
  unfold validateHealthCheck at ran
  rw [enabled] at ran
  obtain ⟨_, pathChecked, timeoutChecked⟩ := bind_eq_ok.mp ran
  have pathGood := reject_eq_ok.mp pathChecked
  simp only [not_or, Bool.not_eq_false, Bool.not_eq_true] at pathGood
  exact ⟨pathGood.2.1, pathGood.2.2, Nat.le_of_not_gt (reject_eq_ok.mp timeoutChecked)⟩

theorem validateUpstream_ok {names : List Text}
    (ran : validateUpstream names upstream = .ok after) :
    upstream.Accepted ∧ upstream.name ∉ names ∧ after = upstream.name :: names := by
  simp only [validateUpstream, bind_eq_ok] at ran
  obtain ⟨_, named, _, fresh, _, tls, _, health, same⟩ := ran
  cases same
  refine ⟨⟨reject_eq_ok.mp named, ?_, ?_, ?_⟩, reject_eq_ok.mp fresh, rfl⟩
  · intro settings enabled
    exact (validateUpstreamTls_ok tls enabled).1
  · intro settings enabled
    exact (validateUpstreamTls_ok tls enabled).2
  · intro path interval timeout enabled
    exact validateHealthCheck_ok health enabled

section

variable {engine : RegexEngine}

variable {cache after : PatternCache engine} {host : Text} {route : Route}
  {upstreamNames : List Text}

private theorem validateRegexWithCache_ok {path : Text}
    (ran : validateRegexWithCache cache path host = .ok after) : engine.compiles path = true := by
  unfold validateRegexWithCache at ran
  split at ran
  · cases ran
  · split at ran
    · rename_i known
      exact cache.compiled path known
    · split at ran
      · rename_i compiles
        exact compiles
      · cases ran

theorem validateRegexRoute_ok (ran : validateRegexRoute cache host route = .ok after)
    {pattern : Text} (regex : route.matcher.path = .regex pattern) :
    engine.compiles pattern = true ∧ route.policy.rewrite.path = .disabled := by
  unfold validateRegexRoute at ran
  rw [regex] at ran
  simp only [bind_eq_ok] at ran
  obtain ⟨_, _, known, compiled, _, rewritten, _⟩ := ran
  exact ⟨validateRegexWithCache_ok compiled, Decidable.not_not.mp (reject_eq_ok.mp rewritten)⟩

private theorem validateAction_ok (ran : validateAction upstreamNames host route = .ok ()) :
    route.policy.action ≠ .forward [] ∧
      ∀ destination ∈ route.policy.action.destinations, destination.upstream ∈ upstreamNames := by
  unfold validateAction at ran
  cases action : route.policy.action with
  | redirect | direct =>
    exact ⟨fun same => (nomatch same), fun _ member => (List.not_mem_nil member).elim⟩
  | forward =>
    rw [action] at ran
    obtain ⟨_, some, all⟩ := bind_eq_ok.mp ran
    constructor
    · intro same
      cases same
      exact reject_eq_ok.mp some rfl
    · intro destination member
      exact Decidable.not_not.mp (reject_eq_ok.mp (forM_eq_ok.mp all destination member))

theorem validateRoute_ok {scan after : RouteScan engine}
    (ran : validateRoute upstreamNames host scan route = .ok after) :
    RouteAccepted engine upstreamNames route ∧ matchKey route.matcher.path ∉ scan.seen ∧
      after.seen = matchKey route.matcher.path :: scan.seen := by
  simp only [validateRoute, bind_eq_ok] at ran
  obtain ⟨_, normalized, _, fresh, cache, regex, _, _, _, _, _, action, same⟩ := ran
  cases same
  have forwarding := validateAction_ok action
  refine ⟨⟨?_, ?_, ?_, forwarding.1, forwarding.2⟩, reject_eq_ok.mp fresh, rfl⟩
  · intro literalPath
    exact Decidable.not_not.mp fun bad => reject_eq_ok.mp normalized ⟨literalPath, bad⟩
  · intro pattern isRegex
    exact (validateRegexRoute_ok regex isRegex).1
  · intro pattern isRegex
    exact (validateRegexRoute_ok regex isRegex).2

private theorem validateHostRoutes_ok {vhost : VirtualHost}
    (ran : validateHostRoutes upstreamNames cache vhost = .ok after) :
    (vhost.paths.map fun route => matchKey route.matcher.path).Nodup ∧
      ∀ route ∈ vhost.paths, RouteAccepted engine upstreamNames route := by
  obtain ⟨scan, ranAll, _⟩ := bind_eq_ok.mp ran
  constructor
  · refine (foldlM_distinct (fun route => matchKey route.matcher.path)
      (fun scan key => key ∈ scan.seen) ?_ ?_ ?_ ranAll).1
    · intro before route after ranOne
      exact (validateRoute_ok ranOne).2.1
    · intro before route after ranOne
      rw [(validateRoute_ok ranOne).2.2]
      exact List.mem_cons_self
    · intro before route after ranOne other member
      rw [(validateRoute_ok ranOne).2.2]
      exact List.mem_cons_of_mem _ member
  · exact foldlM_forall _ (fun _ _ _ ranOne => (validateRoute_ok ranOne).1) ranAll

end

/-! ### Server names that were accepted -/

private theorem noteOverride_ok {needs after : Map Text OverrideState}
    (ran : noteOverride needs upstream = .ok after) :
    (after = needs ∨
      after = needs.insert upstream.name { referenced := false, missingRewrite := false }) ∧
    ∀ settings, upstream.NeedsName settings → upstream.hasDns = false →
      settings.reuseAcrossSni = .disabled ∧
      after = needs.insert upstream.name { referenced := false, missingRewrite := false } := by
  unfold noteOverride at ran
  cases tls : upstream.tls with
  | disabled =>
    rw [tls] at ran
    cases ran
    refine ⟨Or.inl rfl, ?_⟩
    intro settings needsName
    cases tls.symm.trans needsName.1
  | enabled settings =>
    rw [tls] at ran
    dsimp only at ran
    split at ran
    · split at ran
      · rename_i dns
        cases ran
        refine ⟨Or.inl rfl, ?_⟩
        intro other _ without
        rw [dns] at without
        cases without
      · split at ran
        · cases ran
        · rename_i notReused
          cases ran
          refine ⟨Or.inr rfl, ?_⟩
          intro other needsName _
          cases tls.symm.trans needsName.1
          refine ⟨?_, rfl⟩
          cases reuse : settings.reuseAcrossSni with
          | disabled => rfl
          | enabled => exact absurd reuse notReused
    · rename_i other
      cases ran
      refine ⟨Or.inl rfl, ?_⟩
      intro found needsName _
      cases tls.symm.trans needsName.1
      exact absurd needsName.2 other

private theorem isReported_refer {state : OverrideState} {rewriteHost : Bool}
    (reported : state.isReported = true ∨ rewriteHost = false) :
    (state.refer rewriteHost).isReported = true := by
  unfold OverrideState.isReported OverrideState.refer at *
  rcases reported with before | missing
  · rw [Bool.and_eq_true] at before
    simp [before.2]
  · simp [missing]

theorem isReported_foldl (updates : List (Sigma fun _ : Text => Bool)) (state : OverrideState)
    (reported : state.isReported = true ∨ ∃ update ∈ updates, update.2 = false) :
    (updates.foldl (fun state update => state.refer update.2) state).isReported = true := by
  induction updates generalizing state with
  | nil =>
    rcases reported with before | ⟨update, member, _⟩
    · exact before
    · cases member
  | cons update rest ih =>
    apply ih
    rcases reported with before | ⟨other, member, missing⟩
    · exact Or.inl (isReported_refer (Or.inl before))
    · rcases List.mem_cons.mp member with rfl | later
      · exact Or.inl (isReported_refer (Or.inr missing))
      · exact Or.inr ⟨other, later, missing⟩

private theorem mem_forwardings {routes : List VirtualHost} {vhost : VirtualHost}
    (host : vhost ∈ routes) {route : Route} (path : route ∈ vhost.paths)
    {destination : Destination} (member : destination ∈ route.policy.action.destinations) :
    ⟨destination.upstream, decide (route.policy.rewrite.host ≠ .disabled)⟩ ∈
      forwardings routes :=
  List.mem_flatMap.mpr ⟨vhost, host, List.mem_flatMap.mpr
    ⟨route, path, List.mem_map.mpr ⟨destination, member, rfl⟩⟩⟩

private theorem validateSni_ok {routes : List VirtualHost} {upstreams : List Upstream}
    (ran : validateSniAutoRequiresDnsOrRewrite routes upstreams = .ok ())
    (listed : upstream ∈ upstreams) {settings : TlsSettings}
    (needsName : upstream.NeedsName settings) (without : upstream.hasDns = false) :
    settings.reuseAcrossSni = .disabled ∧
      ∀ vhost ∈ routes, ∀ route ∈ vhost.paths,
        ∀ destination ∈ route.policy.action.destinations, destination.upstream = upstream.name →
          route.policy.rewrite.host ≠ .disabled := by
  obtain ⟨needs, ranNeeds, ranRoutes⟩ := bind_eq_ok.mp ran
  have each := foldlM_forall
    (fun upstream => ∀ settings, upstream.NeedsName settings → upstream.hasDns = false →
      settings.reuseAcrossSni = .disabled)
    (fun _ _ _ ranOne settings needsName without =>
      ((noteOverride_ok ranOne).2 settings needsName without).1) ranNeeds
  have needed : needs.lookup upstream.name =
      some { referenced := false, missingRewrite := false } := by
    refine foldlM_reached (fun needs => needs.lookup upstream.name =
      some { referenced := false, missingRewrite := false }) listed ?_ ?_ ranNeeds
    · intro before after ranOne
      rw [((noteOverride_ok ranOne).2 settings needsName without).2]
      exact AList.lookup_insert _
    · intro before other after ranOne found
      rcases (noteOverride_ok ranOne).1 with rfl | rfl
      · exact found
      · by_cases same : upstream.name = other.name
        · rw [same]
          exact AList.lookup_insert _
        · rw [AList.lookup_insert_ne same]
          exact found
  refine ⟨each upstream listed settings needsName without, ?_⟩
  intro vhost host route path destination member named kept
  dsimp only at ranRoutes
  split at ranRoutes
  · cases ranRoutes
  · rename_i noneMissing
    have updated := lookup_foldl_applyUpdate_filter
      (fun _ state => OverrideState.refer state) (forwardings routes) needs upstream.name
    rw [needed, Option.map_some] at updated
    have forwarded := mem_forwardings host path member
    have entry := (List.mem_dlookup_iff (AList.nodupKeys _)).mp updated
    apply List.find?_eq_none.mp noneMissing _ entry
    apply isReported_foldl
    refine Or.inr ⟨_, List.mem_filter.mpr ⟨forwarded, decide_eq_true named⟩, ?_⟩
    rw [kept]
    rfl

private theorem notePort_ok {seen after : Map Nat Text} {use : Nat × Text}
    (ran : notePort seen use = .ok after) : use.1 ∉ seen ∧ after = seen.insert use.1 use.2 := by
  unfold notePort at ran
  split at ran
  · cases ran
  · rename_i free
    cases ran
    exact ⟨AList.lookup_eq_none.mp free, rfl⟩

private theorem validatePortConflicts_ok (ran : validatePortConflicts config = .ok ()) :
    ((portUses config).map Prod.fst).Nodup := by
  obtain ⟨final, ranAll, _⟩ := bind_eq_ok.mp ran
  refine (foldlM_distinct Prod.fst (fun (seen : Map Nat Text) port => port ∈ seen)
    ?_ ?_ ?_ ranAll).1
  · intro before use after ranOne
    exact (notePort_ok ranOne).1
  · intro before use after ranOne
    rw [(notePort_ok ranOne).2]
    exact AList.mem_insert _ |>.mpr (Or.inl rfl)
  · intro before use after ranOne other member
    rw [(notePort_ok ranOne).2]
    exact AList.mem_insert _ |>.mpr (Or.inr member)

theorem checkRuntime_accepted {after : PatternCache engine}
    (ran : checkRuntime cache config = .ok after) : config.Accepted engine := by
  simp only [checkRuntime, bind_eq_ok] at ran
  obtain ⟨_, listeners, _, hosts, _, upstreams, _, routes, _, names, _, ports, _, capabilities, _⟩
    := ran
  obtain ⟨_, upstreams, _⟩ := bind_eq_ok.mp upstreams
  have eachHost := foldlM_forall _ (fun _ _ _ ranOne => validateHostRoutes_ok ranOne) routes
  constructor
  · exact distinct_of_scan Listener.name (fun _ _ _ => validateListener_ok) listeners
  · exact distinct_of_scan (fun vhost => vhost.host) (fun _ _ _ => validateVirtualHost_ok) hosts
  · exact distinct_of_scan Upstream.name (fun _ _ _ ranOne => (validateUpstream_ok ranOne).2)
      upstreams
  · exact foldlM_forall _ (fun _ _ _ ranOne => (validateUpstream_ok ranOne).1) upstreams
  · intro vhost host
    exact (eachHost vhost host).1
  · intro route found
    obtain ⟨vhost, host, path⟩ := found
    exact (eachHost vhost host).2 route path
  · intro upstream listed settings needsName
    cases dns : upstream.hasDns with
    | true => exact Or.inl rfl
    | false =>
      obtain ⟨notReused, rewritten⟩ := validateSni_ok names listed needsName dns
      refine Or.inr ⟨notReused, ?_⟩
      intro route found
      obtain ⟨vhost, host, path⟩ := found
      exact rewritten vhost host route path
  · exact validatePortConflicts_ok ports
  · intro capability member
    exact Decidable.not_not.mp (reject_eq_ok.mp (forM_eq_ok.mp capabilities capability member))

/-- A configuration that passed, with what its checks have found. -/
structure ValidatedRuntimeConfig (engine : RegexEngine) where
  runtime : RuntimeConfig
  accepted : runtime.Accepted engine

def validateRuntime {engine : RegexEngine} (cache : PatternCache engine)
    (config : RuntimeConfig) :
    CoreValidationResult (ValidatedRuntimeConfig engine × PatternCache engine) :=
  match ran : checkRuntime cache config with
  | .error failure => .error failure
  | .ok cache => .ok ({ runtime := config, accepted := checkRuntime_accepted ran }, cache)

theorem validateRuntime_runtime {result : ValidatedRuntimeConfig engine × PatternCache engine}
    (ran : validateRuntime cache config = .ok result) : result.1.runtime = config := by
  unfold validateRuntime at ran
  split at ran
  · cases ran
  · cases ran
    rfl

theorem validateRuntime_of_check (passes : (checkRuntime cache config).isOk = true) :
    ∃ validated after, validateRuntime cache config = .ok (validated, after) := by
  unfold validateRuntime
  split
  · rename_i failed
    rw [failed] at passes
    cases passes
  · exact ⟨_, _, rfl⟩

end Pavis.Config
