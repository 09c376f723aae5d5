/-
The documented rules that join several fields.

A document is converted and the result is validated. What the validation sees is
the converted form: a rule about something the conversion drops or narrows is
kept only by documents that do not make use of it.
-/

import Pavis.Codec.Convert
import Pavis.Config.Accepted

namespace Pavis.Codec

open ByteText Fallible
open Config (IsNormalized NonZero PatternCache RouteAccepted RuntimeConfig Timeout
  ValidatedRuntimeConfig checkRuntime routePath validateRuntime validateRuntime_of_check
  validateRuntime_runtime)
open Routing (RegexEngine wordEngine)

def SerdeConfig.HasRoute (document : SerdeConfig) (route : Route) : Prop :=
  ∃ vhost ∈ document.routes.getD [], route ∈ vhost.paths

def SerdeConfig.Declares (document : SerdeConfig) (name : Text) : Prop :=
  ∃ upstream ∈ document.upstreams.getD [], upstream.name = name

def PathMatcher.isRegex : PathMatcher → Bool
  | .regex _ => true
  | .prefixed _ => false
  | .exact _ => false

/-- The rules of the reference for one route. -/
structure RouteRules (document : SerdeConfig) (route : Route) : Prop where
  rooted : route.matcherConfig.path.isRegex = false →
    startsWith (matcherPath route.matcherConfig) (literal "/") = true
  trimmed : route.matcherConfig.path.isRegex = false →
    endsWith (matcherPath route.matcherConfig) (literal "/") = true →
      matcherPath route.matcherConfig = literal "/"
  declared : ∀ destinations, route.action = .forward destinations →
    ∀ destination ∈ destinations, document.Declares destination.upstream
  unrewritten : route.matcherConfig.path.isRegex = true →
    ∀ policy, route.rewrite = some policy → policy.path = none ∧ policy.host = none
  methods : ¬ (route.matcherConfig.method.isSome = true ∧ route.matcherConfig.methods.isSome = true)
  perTry : ∀ policy duration timeout, route.retry = some policy → policy.perTry = some duration →
    route.timeout = some timeout → duration.nanos ≤ timeout.nanos

def CrossFieldRules (document : SerdeConfig) : Prop :=
  ∀ route, document.HasRoute route → RouteRules document route

/-- What the checks do not see: a host rewrite under a pattern, a method beside a list of
methods, and of a duration all beyond 32 bits of milliseconds and all below one. -/
structure WithinChecks (route : Route) : Prop where
  host : route.matcherConfig.path.isRegex = true →
    ∀ policy, route.rewrite = some policy → policy.host = none
  methods : route.matcherConfig.methods = none ∨ route.matcherConfig.method = none
  perTry : ∀ policy duration timeout, route.retry = some policy → policy.perTry = some duration →
    route.timeout = some timeout →
      duration.asMillis < 2 ^ 32 ∧
        (duration.asMillis = timeout.asMillis → duration.nanos % 1000000 ≤ timeout.nanos % 1000000)

section

variable {engine : RegexEngine} {document : SerdeConfig} {config : RuntimeConfig}

private theorem converted_hasRoute (converted : ConvertedConfig engine (structural document) config)
    {route : Route} (has : document.HasRoute route) :
    ∃ vhostIndex pathIndex result, config.HasRoute result ∧
      ConvertedRoute engine vhostIndex pathIndex route result := by
  obtain ⟨vhost, listed, path⟩ := has
  obtain ⟨vhostIndex, host, converts, ranHost⟩ := mapM_zipIdx_reached converted.routes listed
  obtain ⟨paths, ranPaths, built⟩ := bind_eq_ok.mp ranHost
  obtain ⟨pathIndex, result, member, ran⟩ := mapM_zipIdx_reached ranPaths path
  cases built
  exact ⟨vhostIndex, pathIndex, result, ⟨_, converts, member⟩, routeToRuntime_converted ran⟩

private theorem converted_declares (converted : ConvertedConfig engine (structural document) config)
    {name : Text} (declared : name ∈ config.upstreams.map Config.Upstream.name) :
    document.Declares name := by
  obtain ⟨result, listed, rfl⟩ := List.mem_map.mp declared
  obtain ⟨entry, member, ran⟩ := exists_of_mem_right (mapM_eq_ok.mp converted.upstreams) listed
  exact ⟨entry.1, List.fst_mem_of_mem_zipIdx member, (upstreamToRuntime_name ran).symm⟩

end

private theorem root_of_isNormalized {path : Text} (normalized : IsNormalized path)
    (slash : endsWith path (literal "/") = true) : path = literal "/" := by
  obtain ⟨rooted, short⟩ := normalized
  have length : path.length ≤ 1 := Nat.le_of_not_lt fun long => short ⟨long, slash⟩
  have starts : literal "/" <+: path := List.isPrefixOf_iff_prefix.mp rooted
  exact (starts.eq_of_length (Nat.le_antisymm starts.length_le length)).symm

section

variable {engine : RegexEngine} {vhostIndex pathIndex : Nat} {upstreamNames : List Text}
  {route : Route} {result : Config.Route}

section

variable (converted : ConvertedRoute engine vhostIndex pathIndex route result)

include converted

private theorem converted_normalized (accepted : RouteAccepted engine upstreamNames result)
    (plain : route.matcherConfig.path.isRegex = false) :
    IsNormalized (matcherPath route.matcherConfig) := by
  have normalized := accepted.normalized
  unfold routePath at normalized
  rw [converted.path] at normalized
  unfold matcherPath
  cases same : route.matcherConfig.path with
  | prefixed | exact =>
    rw [same] at normalized
    apply normalized
    intro impossible
    cases impossible
  | regex =>
    rw [same] at plain
    cases plain

private theorem converted_declared (accepted : RouteAccepted engine upstreamNames result)
    {destinations : List WeightedDestination} (forwards : route.action = .forward destinations) :
    ∀ destination ∈ destinations, destination.upstream ∈ upstreamNames := by
  intro destination member
  have action := converted.action
  rw [forwards] at action
  obtain ⟨results, ran, built⟩ := bind_eq_ok.mp action
  obtain ⟨found, listed, same⟩ := exists_of_mem_left (mapM_eq_ok.mp ran) member
  obtain ⟨_, _, renamed⟩ := bind_eq_ok.mp same
  have declared := accepted.declared
  rw [← Except.ok.inj built] at declared
  have known := declared found listed
  cases renamed
  exact known

private theorem converted_path_kept (accepted : RouteAccepted engine upstreamNames result)
    (pattern : route.matcherConfig.path.isRegex = true) {policy : RewritePolicy}
    (rewrites : route.rewrite = some policy) : policy.path = none := by
  have path := converted.path
  cases same : route.matcherConfig.path with
  | prefixed | exact =>
    rw [same] at pattern
    cases pattern
  | regex text =>
    rw [same] at path
    have kept := accepted.keepsPath text path
    rw [converted.rewrite, rewrites] at kept
    obtain ⟨target, host⟩ := policy
    cases target with
    | none => rfl
    | some => cases kept

end

theorem required_eq_ok {bits value : Nat} {tooLarge zero : ConvertError} {number : NonZero bits}
    (ran : required bits value tooLarge zero = .ok number) : number.value = value := by
  obtain ⟨_, fits, created⟩ := bind_eq_ok.mp ran
  rw [nonZero_eq_ok created]
  exact (tryFrom_eq_ok.mp fits).2.symm

variable {duration : StdDuration}

private theorem timeoutToRuntime_ms {timeout : Timeout}
    (ran : timeoutToRuntime (some duration) = .ok timeout) :
    requestTimeoutMs timeout = duration.asMillis ∧ duration.asMillis < 2 ^ 32 := by
  obtain ⟨ms, converted, built⟩ := bind_eq_ok.mp ran
  cases built
  have value := required_eq_ok converted
  exact ⟨value, value ▸ ms.bounded⟩

private theorem retryToRuntime_perTry {vhostIndex pathIndex : Nat} {timeout : Timeout}
    {policy : RetryPolicy} {retry : Config.RetryPolicy}
    (ran : retryToRuntime vhostIndex pathIndex timeout (some policy) = .ok retry)
    (limited : policy.perTry = some duration) :
    duration.asMillis % 2 ^ 32 ≤ requestTimeoutMs timeout := by
  simp only [retryToRuntime, convertRetryPolicy, bind_eq_ok] at ran
  obtain ⟨_, _, _, _, _, _, _, _, _, _, _, perTry, _⟩ := ran
  rw [limited] at perTry
  obtain ⟨_, within, _⟩ := bind_eq_ok.mp perTry
  exact Nat.le_of_not_lt (reject_eq_ok.mp within)

private theorem duration_le_iff {timeout : StdDuration}
    (checked : duration.asMillis % 2 ^ 32 ≤ timeout.asMillis) (fits : timeout.asMillis < 2 ^ 32) :
    duration.nanos ≤ timeout.nanos ↔
      duration.asMillis < 2 ^ 32 ∧
        (duration.asMillis = timeout.asMillis →
          duration.nanos % 1000000 ≤ timeout.nanos % 1000000) := by
  unfold StdDuration.asMillis at checked fits ⊢
  constructor
  · intro ordered
    have millis : duration.nanos / 1000000 ≤ timeout.nanos / 1000000 :=
      Nat.div_le_div_right ordered
    constructor
    · omega
    · intro same
      omega
  · intro both
    obtain ⟨small, rest⟩ := both
    rw [Nat.mod_eq_of_lt small] at checked
    rcases Nat.lt_or_eq_of_le checked with below | same
    · omega
    · have remainder := rest same
      omega

theorem converted_perTry_iff (converted : ConvertedRoute engine vhostIndex pathIndex route result)
    {policy : RetryPolicy} {timeout : StdDuration} (retries : route.retry = some policy)
    (limited : policy.perTry = some duration) (given : route.timeout = some timeout) :
    duration.nanos ≤ timeout.nanos ↔
      duration.asMillis < 2 ^ 32 ∧
        (duration.asMillis = timeout.asMillis →
          duration.nanos % 1000000 ≤ timeout.nanos % 1000000) := by
  have ranTimeout := converted.timeout
  have ranRetry := converted.retry
  rw [given] at ranTimeout
  rw [retries] at ranRetry
  obtain ⟨millis, fits⟩ := timeoutToRuntime_ms ranTimeout
  have checked := retryToRuntime_perTry ranRetry limited
  rw [millis] at checked
  exact duration_le_iff checked fits

end

theorem routeRules_iff {engine : RegexEngine} {document : SerdeConfig} {config : RuntimeConfig}
    (converted : ConvertedConfig engine (structural document) config) {vhostIndex pathIndex : Nat}
    {route : Route} {result : Config.Route}
    (kept : ConvertedRoute engine vhostIndex pathIndex route result)
    (accepted : RouteAccepted engine (config.upstreams.map Config.Upstream.name) result) :
    RouteRules document route ↔ WithinChecks route := by
  constructor
  · intro rules
    exact {
      host := fun pattern policy rewrites => (rules.unrewritten pattern policy rewrites).2
      methods := by
        have notBoth := rules.methods
        cases single : route.matcherConfig.method with
        | none => exact Or.inr rfl
        | some =>
          cases several : route.matcherConfig.methods with
          | none => exact Or.inl rfl
          | some =>
            rw [single, several] at notBoth
            exact absurd ⟨rfl, rfl⟩ notBoth
      perTry := fun policy duration timeout retries limited given =>
        (converted_perTry_iff kept retries limited given).mp
          (rules.perTry policy duration timeout retries limited given) }
  · intro within
    exact {
      rooted := fun plain => (converted_normalized kept accepted plain).1
      trimmed := fun plain slash =>
        root_of_isNormalized (converted_normalized kept accepted plain) slash
      declared := fun destinations forwards destination member =>
        converted_declares converted (converted_declared kept accepted forwards destination member)
      unrewritten := fun pattern policy rewrites =>
        ⟨converted_path_kept kept accepted pattern rewrites, within.host pattern policy rewrites⟩
      methods := by
        intro both
        rcases within.methods with none | none
        · rw [none] at both
          cases both.2
        · rw [none] at both
          cases both.1
      perTry := fun policy duration timeout retries limited given =>
        (converted_perTry_iff kept retries limited given).mpr
          (within.perTry policy duration timeout retries limited given) }

/-- An accepted document follows the rules exactly when it stays within what is checked. -/
theorem accepted_document_rules_iff {engine : RegexEngine} {cache after : PatternCache engine}
    {document : SerdeConfig} {config : RuntimeConfig} {validated : ValidatedRuntimeConfig engine}
    (converted : (structural document).tryIntoRuntime engine = .ok config)
    (accepted : validateRuntime cache config = .ok (validated, after)) :
    CrossFieldRules document ↔ ∀ route, document.HasRoute route → WithinChecks route := by
  have checks : config.Accepted engine := by
    have runtime := validateRuntime_runtime accepted
    exact runtime ▸ validated.accepted
  have stages := StructurallyConfig.tryIntoRuntime_converted converted
  have eachRoute : ∀ route, document.HasRoute route →
      (RouteRules document route ↔ WithinChecks route) := by
    intro route has
    obtain ⟨_, _, result, found, kept⟩ := converted_hasRoute stages has
    exact routeRules_iff stages kept (checks.eachRoute result found)
  constructor
  · intro rules route has
    exact (eachRoute route has).mp (rules route has)
  · intro within route has
    exact (eachRoute route has).mpr (within route has)

def acceptsDocument (engine : RegexEngine) (document : SerdeConfig) : Bool :=
  match (structural document).tryIntoRuntime engine with
  | .ok config => (checkRuntime (PatternCache.empty engine) config).isOk
  | .error _ => false

theorem acceptsDocument_stages {engine : RegexEngine} {document : SerdeConfig}
    (accepts : acceptsDocument engine document = true) :
    ∃ config validated after,
      (structural document).tryIntoRuntime engine = .ok config ∧
      validateRuntime (PatternCache.empty engine) config = .ok (validated, after) := by
  unfold acceptsDocument at accepts
  split at accepts
  · rename_i config converted
    obtain ⟨validated, after, accepted⟩ := validateRuntime_of_check accepts
    exact ⟨config, validated, after, converted, accepted⟩
  · cases accepts

theorem accepted_document_rules_iff_matching :
    ∃ config validated after,
      (structural (documentOf plainUpstream [matchingRoute])).tryIntoRuntime wordEngine =
        .ok config ∧
      validateRuntime (PatternCache.empty wordEngine) config = .ok (validated, after) ∧
      (CrossFieldRules (documentOf plainUpstream [matchingRoute]) ↔
        ∀ route, (documentOf plainUpstream [matchingRoute]).HasRoute route →
          WithinChecks route) := by
  obtain ⟨config, validated, after, converted, accepted⟩ := acceptsDocument_stages
    (show acceptsDocument wordEngine (documentOf plainUpstream [matchingRoute]) = true by
      decide +kernel)
  exact ⟨config, validated, after, converted, accepted,
    accepted_document_rules_iff converted accepted⟩

def hostRewritingRoute : Route :=
  { forwardingRoute with
    matcher := some
      { path := .regex (literal "v1"), method := none, methods := none, headers := none }
    rewrite := some { path := none, host := some (literal "internal") } }

def twoMethodsRoute : Route :=
  { forwardingRoute with
    matcher := some
      { path := .prefixed (literal "/")
        method := some (literal "GET")
        methods := some [literal "POST"]
        headers := none } }

def longTryRoute : Route :=
  { forwardingRoute with
    timeout := some (.fromSecs 1)
    retry := some
      { maxAttempts := 2
        retryableReasons := [literal "connect_error"]
        retryableStatusCodes := none
        backoff := .fixed 100
        retryNonIdempotent := false
        failOnNonReplayableRetry := false
        maxRequestBodyBufferBytes := 0
        perTry := some (.fromMillis (2 ^ 32 + 500)) } }

private theorem documentOf_hasRoute (upstream : Upstream) (route : Route) :
    (documentOf upstream [route]).HasRoute route :=
  ⟨_, List.mem_singleton_self _, List.mem_singleton_self _⟩

def BreaksRules (route : Route) : Prop :=
  ∃ config validated after,
    (structural (documentOf plainUpstream [route])).tryIntoRuntime wordEngine = .ok config ∧
    validateRuntime (PatternCache.empty wordEngine) config = .ok (validated, after) ∧
    ¬ CrossFieldRules (documentOf plainUpstream [route])

private theorem breaksRules_of {route : Route}
    (accepts : acceptsDocument wordEngine (documentOf plainUpstream [route]) = true)
    (broken : ¬ RouteRules (documentOf plainUpstream [route]) route) : BreaksRules route := by
  obtain ⟨config, validated, after, converted, accepted⟩ := acceptsDocument_stages accepts
  refine ⟨config, validated, after, converted, accepted, ?_⟩
  intro rules
  exact broken (rules route (documentOf_hasRoute plainUpstream route))

theorem accepted_documents_break_rules :
    BreaksRules hostRewritingRoute ∧ BreaksRules twoMethodsRoute ∧ BreaksRules longTryRoute := by
  refine ⟨breaksRules_of (by decide +kernel) ?_, breaksRules_of (by decide +kernel) ?_,
    breaksRules_of (by decide +kernel) ?_⟩
  · intro rules
    cases (rules.unrewritten rfl _ rfl).2
  · intro rules
    exact rules.methods ⟨rfl, rfl⟩
  · intro rules
    exact absurd (rules.perTry _ _ _ rfl rfl rfl) (by decide)

end Pavis.Codec
