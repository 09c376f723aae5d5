/-
Building the runtime state of a validated configuration.

Compiling a pattern, with and without a size limit, is a parameter, and the texts
of its errors are left out.
-/

import Mathlib.Data.List.Infix
import Pavis.Config.Accepted
import Pavis.Routing.Compile
import Pavis.Upstream.Materialize

namespace Pavis.State

open ByteText Config Fallible KeyedMap Upstream
open Routing (CompiledRegex HeaderPredicate HeaderPredicates RegexEngine Router wordEngine)

/-- Patterns over bytes: which compile, and which do within a number of bytes. -/
structure ByteRegexCompiler where
  compiles : Text → Bool
  compilesWithin : Text → Nat → Bool

/-- Where a pattern stands: its route, path and header. -/
structure PatternSite where
  route : Nat
  path : Nat
  header : Nat
  name : Text
  deriving DecidableEq

inductive RegexRejection where
  | tooManyInRoute (route count limit : Nat)
  | tooManyInConfig (count limit : Nat)
  | invalidSyntax (site : PatternSite)
  | exceedsSizeLimit (site : PatternSite)
  deriving DecidableEq

def HeaderPredicate.isRegex (predicate : HeaderPredicate) : Bool :=
  match predicate.matcher with
  | .regex _ => true
  | .present | .exact _ | .prefixed _ | .absent => false

def countRegexesInHeaders : HeaderPredicates → Nat
  | .none => 0
  | .some predicates => predicates.countP HeaderPredicate.isRegex

def countRegexesInRoute (route : VirtualHost) : Nat :=
  (route.paths.map fun path => countRegexesInHeaders path.matcher.headers).sum

section

variable (compiler : ByteRegexCompiler) (limits : RegexLimits)

def compileRegexPattern (site : PatternSite) (pattern : Text) (compiled : Map Text CompiledRegex) :
    Except RegexRejection (Map Text CompiledRegex) :=
  if (compiled.lookup pattern).isSome then .ok compiled
  else do
    reject (compiler.compiles pattern = false) (.invalidSyntax site)
    reject (compiler.compilesWithin pattern limits.sizeLimitBytes = false)
      (.exceedsSizeLimit site)
    return compiled.insert pattern { pattern := pattern, compiled := { pattern := pattern } }

def compileFromPredicate (route path : Nat) (compiled : Map Text CompiledRegex)
    (predicate : HeaderPredicate × Nat) : Except RegexRejection (Map Text CompiledRegex) :=
  match predicate.1.matcher with
  | .regex pattern =>
    compileRegexPattern compiler limits
      { route := route, path := path, header := predicate.2, name := predicate.1.name }
      pattern compiled
  | .present | .exact _ | .prefixed _ | .absent => .ok compiled

def collectAndCompileFromMatcher (route : Nat) (compiled : Map Text CompiledRegex)
    (path : Route × Nat) : Except RegexRejection (Map Text CompiledRegex) :=
  match path.1.matcher.headers with
  | .none => .ok compiled
  | .some predicates =>
    predicates.zipIdx.foldlM (compileFromPredicate compiler limits route path.2) compiled

structure RegexScan where
  compiled : Map Text CompiledRegex
  totalRegexCount : Nat

def scanRoute (scan : RegexScan) (route : VirtualHost × Nat) : Except RegexRejection RegexScan := do
  let count := countRegexesInRoute route.1
  reject (count > limits.maxRegexPerRoute)
    (.tooManyInRoute route.2 count limits.maxRegexPerRoute)
  let compiled ← route.1.paths.zipIdx.foldlM
    (collectAndCompileFromMatcher compiler limits route.2) scan.compiled
  return { compiled := compiled, totalRegexCount := scan.totalRegexCount + count }

def validateAndCompileRegexes (routes : List VirtualHost) :
    Except RegexRejection (Map Text CompiledRegex) := do
  let scan ← routes.zipIdx.foldlM (scanRoute compiler limits)
    { compiled := ∅, totalRegexCount := 0 }
  reject (scan.totalRegexCount > limits.maxRegexPerConfig)
    (.tooManyInConfig scan.totalRegexCount limits.maxRegexPerConfig)
  return scan.compiled

end

inductive BuildError where
  | regexValidation (rejection : RegexRejection)
  | router (pattern : Text)
  | upstreams (failure : MaterializeError)
  deriving DecidableEq

structure MaterializedRuntimeConfig where
  router : Router RoutePolicy
  upstreamManager : Manager

/-- What the build meets outside the configuration. -/
structure Surroundings where
  compiler : ByteRegexCompiler
  lookups : Nat → Lookup
  loadsMaterials : Upstream → Bool
  clock : Clock

def MaterializedRuntimeConfig.build {engine : RegexEngine} (surroundings : Surroundings)
    (config : ValidatedRuntimeConfig engine) : Except BuildError MaterializedRuntimeConfig := do
  let limits := config.runtime.features.regexLimits
  let compiled ← (validateAndCompileRegexes surroundings.compiler limits
    config.runtime.routes).mapError .regexValidation
  let router ← (Router.withRegex config.runtime.routes
    { engine := engine
      cached := compiled.lookup
      limits := limits.toRegexLimits }).mapError .router
  let upstreamManager ← (Manager.build surroundings.lookups surroundings.loadsMaterials
    surroundings.clock config.runtime.upstreams).mapError .upstreams
  return { router := router, upstreamManager := upstreamManager }

def headerPatterns : HeaderPredicates → List Text
  | .none => []
  | .some predicates => predicates.filterMap fun predicate =>
    match predicate.matcher with
    | .regex pattern => some pattern
    | .present | .exact _ | .prefixed _ | .absent => none

/-- Every pattern of a header compiles within the size limit, and there are not
more of them than a host or the whole configuration may have. -/
structure RegexesWithinLimits (compiler : ByteRegexCompiler) (limits : RegexLimits)
    (routes : List VirtualHost) : Prop where
  compile : ∀ route ∈ routes, ∀ path ∈ route.paths,
    ∀ pattern ∈ headerPatterns path.matcher.headers,
      compiler.compiles pattern = true ∧
        compiler.compilesWithin pattern limits.sizeLimitBytes = true
  perRoute : ∀ route ∈ routes, countRegexesInRoute route ≤ limits.maxRegexPerRoute
  perConfig : (routes.map countRegexesInRoute).sum ≤ limits.maxRegexPerConfig

section

variable {compiler : ByteRegexCompiler} {limits : RegexLimits}

private theorem compileRegexPattern_succeeds {site : PatternSite} {pattern : Text}
    (compiles : compiler.compiles pattern = true)
    (fits : compiler.compilesWithin pattern limits.sizeLimitBytes = true)
    (compiled : Map Text CompiledRegex) :
    ∃ after, compileRegexPattern compiler limits site pattern compiled = .ok after := by
  unfold compileRegexPattern
  split
  · exact ⟨compiled, rfl⟩
  · apply bind_succeeds ⟨(), reject_eq_ok.mpr (by simp [compiles])⟩
    intro _ _
    apply bind_succeeds ⟨(), reject_eq_ok.mpr (by simp [fits])⟩
    intro _ _
    exact ⟨_, rfl⟩

private theorem collectAndCompileFromMatcher_succeeds {path : Route}
    (compile : ∀ pattern ∈ headerPatterns path.matcher.headers,
      compiler.compiles pattern = true ∧
        compiler.compilesWithin pattern limits.sizeLimitBytes = true)
    (route index : Nat) (compiled : Map Text CompiledRegex) :
    ∃ after, collectAndCompileFromMatcher compiler limits route compiled (path, index) =
      .ok after := by
  unfold collectAndCompileFromMatcher
  dsimp only
  cases headers : path.matcher.headers with
  | none => exact ⟨compiled, rfl⟩
  | some predicates =>
    apply foldlM_succeeds
    intro before predicate member
    rw [headers] at compile
    unfold compileFromPredicate
    cases matcher : predicate.1.matcher with
    | regex pattern =>
      have listed : pattern ∈ headerPatterns (.some predicates) :=
        List.mem_filterMap.mpr
          ⟨predicate.1, List.fst_mem_of_mem_zipIdx member, by rw [matcher]⟩
      exact compileRegexPattern_succeeds (compile pattern listed).1 (compile pattern listed).2
        before
    | present | exact | prefixed | absent => exact ⟨before, rfl⟩

theorem scanRoute_succeeds {routes : List VirtualHost}
    (within : RegexesWithinLimits compiler limits routes) (scan : RegexScan)
    {route : VirtualHost × Nat} (member : route ∈ routes.zipIdx) :
    ∃ after, scanRoute compiler limits scan route = .ok after := by
  have listed := List.fst_mem_of_mem_zipIdx member
  unfold scanRoute
  apply bind_succeeds
    ⟨(), reject_eq_ok.mpr (Nat.not_lt.mpr (within.perRoute route.1 listed))⟩
  intro _ _
  apply bind_succeeds
  · apply foldlM_succeeds
    intro before path pathMember
    exact collectAndCompileFromMatcher_succeeds
      (within.compile route.1 listed path.1 (List.fst_mem_of_mem_zipIdx pathMember))
      route.2 path.2 before
  · intro compiled _
    exact ⟨_, rfl⟩

private theorem scanRoute_total {scan after : RegexScan} {route : VirtualHost × Nat}
    (ran : scanRoute compiler limits scan route = .ok after) :
    after.totalRegexCount = scan.totalRegexCount + countRegexesInRoute route.1 := by
  obtain ⟨_, _, later⟩ := bind_eq_ok.mp ran
  obtain ⟨_, _, same⟩ := bind_eq_ok.mp later
  cases same
  rfl

theorem scanRoutes_total {routes : List (VirtualHost × Nat)} {scan final : RegexScan}
    (ran : routes.foldlM (scanRoute compiler limits) scan = .ok final) :
    final.totalRegexCount =
      scan.totalRegexCount + (routes.map fun route => countRegexesInRoute route.1).sum := by
  induction routes generalizing scan with
  | nil =>
    cases ran
    rfl
  | cons route rest ih =>
    obtain ⟨next, ranFirst, ranRest⟩ := bind_eq_ok.mp ran
    rw [ih ranRest, scanRoute_total ranFirst, List.map_cons, List.sum_cons, Nat.add_assoc]

theorem zipIdx_counts (routes : List VirtualHost) :
    (routes.zipIdx.map fun route => countRegexesInRoute route.1) =
      routes.map countRegexesInRoute := by
  conv_rhs => rw [← List.zipIdx_map_fst 0 routes, List.map_map]
  rfl

theorem validateAndCompileRegexes_succeeds {routes : List VirtualHost}
    (within : RegexesWithinLimits compiler limits routes) :
    ∃ compiled, validateAndCompileRegexes compiler limits routes = .ok compiled := by
  unfold validateAndCompileRegexes
  apply bind_succeeds
  · apply foldlM_succeeds
    intro before route member
    exact scanRoute_succeeds within before member
  · intro scan ran
    have total := scanRoutes_total ran
    rw [zipIdx_counts, Nat.zero_add] at total
    apply bind_succeeds ⟨(), reject_eq_ok.mpr ?_⟩
    · intro _ _
      exact ⟨_, rfl⟩
    · rw [total]
      exact Nat.not_lt.mpr within.perConfig

end

theorem MaterializedRuntimeConfig.build_manager {engine : RegexEngine}
    {surroundings : Surroundings} {config : ValidatedRuntimeConfig engine}
    {materialized : MaterializedRuntimeConfig}
    (built : build surroundings config = .ok materialized) :
    Manager.build surroundings.lookups surroundings.loadsMaterials surroundings.clock
      config.runtime.upstreams = .ok materialized.upstreamManager := by
  simp only [build, bind_eq_ok] at built
  obtain ⟨_, _, _, _, manager, ran, same⟩ := built
  cases same
  exact mapError_eq_ok.mp ran

section

variable {engine : RegexEngine} {config : RuntimeConfig} {validated : ValidatedRuntimeConfig engine}
  {cache after : PatternCache engine}

section

variable (surroundings : Surroundings)
  (endpoints : ∀ upstream ∈ config.upstreams, upstream.endpoints ≠ [])
  (regexes : RegexesWithinLimits surroundings.compiler config.features.regexLimits config.routes)
  (resolves : ∀ upstream ∈ config.upstreams.zipIdx,
    (surroundings.lookups upstream.2).Resolves upstream.1)
  (loads : ∀ upstream ∈ config.upstreams, surroundings.loadsMaterials upstream = true)

include endpoints regexes resolves loads

theorem MaterializedRuntimeConfig.build_succeeds
    (accepted : validateRuntime cache config = .ok (validated, after)) :
    ∃ materialized, build surroundings validated = .ok materialized := by
  cases validateRuntime_runtime accepted
  unfold build
  obtain ⟨compiled, ranRegexes⟩ := validateAndCompileRegexes_succeeds regexes
  apply bind_succeeds ⟨compiled, mapError_eq_ok.mpr ranRegexes⟩
  intro _ _
  apply bind_succeeds
  · refine (Router.withRegex_succeeds ?_).imp fun _ => mapError_eq_ok.mpr
    intro vhost host route path
    exact (validated.accepted.eachRoute route ⟨vhost, host, path⟩).compiles
  · intro _ _
    obtain ⟨manager, ranManager⟩ :=
      Manager.build_succeeds endpoints resolves loads surroundings.clock
    apply bind_succeeds ⟨manager, mapError_eq_ok.mpr ranManager⟩
    intro _ _
    exact ⟨_, rfl⟩

theorem validate_and_build (passes : (checkRuntime cache config).isOk = true) :
    ∃ validated after materialized,
      validateRuntime cache config = .ok (validated, after) ∧
      MaterializedRuntimeConfig.build surroundings validated = .ok materialized ∧
      Manager.build surroundings.lookups surroundings.loadsMaterials surroundings.clock
        config.upstreams = .ok materialized.upstreamManager := by
  obtain ⟨validated, after, accepted⟩ := validateRuntime_of_check passes
  obtain ⟨materialized, built⟩ := MaterializedRuntimeConfig.build_succeeds surroundings endpoints
    regexes resolves loads accepted
  cases validateRuntime_runtime accepted
  exact ⟨validated, after, materialized, accepted, built,
    MaterializedRuntimeConfig.build_manager built⟩

end

/-- A validated configuration whose upstreams have endpoints, whose header patterns
keep its limits and whose names resolve can be built, and no route of it forwards
to a cluster that is missing or empty. -/
theorem validated_config_materializes
    (accepted : validateRuntime cache config = .ok (validated, after)) (surroundings : Surroundings)
    (endpoints : ∀ upstream ∈ config.upstreams, upstream.endpoints ≠ [])
    (regexes : RegexesWithinLimits surroundings.compiler config.features.regexLimits config.routes)
    (resolves : ∀ upstream ∈ config.upstreams.zipIdx,
      (surroundings.lookups upstream.2).Resolves upstream.1)
    (loads : ∀ upstream ∈ config.upstreams, surroundings.loadsMaterials upstream = true) :
    ∃ materialized, MaterializedRuntimeConfig.build surroundings validated = .ok materialized ∧
      ∀ route, config.HasRoute route → ∀ destination ∈ route.policy.action.destinations,
        ∃ cluster, materialized.upstreamManager.get destination.upstream = some cluster ∧
          cluster.currentEndpoints ≠ [] := by
  obtain ⟨materialized, built⟩ := MaterializedRuntimeConfig.build_succeeds surroundings endpoints
    regexes resolves loads accepted
  cases validateRuntime_runtime accepted
  refine ⟨materialized, built, ?_⟩
  intro route found destination member
  have managed := MaterializedRuntimeConfig.build_manager built
  obtain ⟨upstream, listed, named⟩ :=
    List.mem_map.mp ((validated.accepted.eachRoute route found).declared destination member)
  obtain ⟨cluster, present⟩ := Manager.get_of_mem managed listed
  rw [named] at present
  obtain ⟨_, _, _, _, _, resolved⟩ := Manager.cluster_of_build managed present
  exact ⟨cluster, present, (materializeUpstream_ok resolved).1⟩

end

def emptyConfig : RuntimeConfig :=
  { listeners :=
      [{ name := literal "default"
         address := { ip := .v4 127 0 0 1, port := 0 }
         workers := .auto
         tls := .disabled }]
    telemetry :=
      { level := .info
        pingora := .error
        serviceName := literal "pavis"
        metrics := .disabled
        accessLog := .disabled
        tracing := .disabled }
    upstreams := []
    routes := []
    shutdown := .disabled
    admin := .disabled
    features := .default
    requiredCapabilities := [] }

def forwardTo (upstream : Text) : RoutePolicy :=
  { timeout := .disabled
    retry := .disabled
    requestHeaders := .disabled
    responseHeaders := .disabled
    rewrite := { path := .disabled, host := .disabled }
    action := .forward [{ upstream := upstream, weight := .constant 1 }]
    principal := .any }

def wordCompiler : ByteRegexCompiler :=
  { compiles := fun pattern => pattern.all isAsciiAlphanumeric
    compilesWithin := fun pattern size =>
      pattern.all isAsciiAlphanumeric && decide (pattern.length * 1024 ≤ size) }

def channelConfig : RuntimeConfig :=
  { emptyConfig with
    upstreams :=
      [{ UpstreamBuilder.build (.constant 1) (literal "api")
          [{ address := .dns (literal "api.example") (.constant 80)
             weight := .constant 1 }] with
         discovery := .logical }]
    routes :=
      [{ host := literal "example.com"
         paths :=
          [{ matcher :=
              { path := .regex (literal "items")
                method := .any
                headers := .some
                  [{ name := literal "x-channel", matcher := .regex (literal "beta") }] }
             policy := forwardTo (literal "api") }] }] }

def channelSurroundings : Surroundings :=
  { compiler := wordCompiler
    lookups := fun _ _ _ => some [.v4 192 0 2 7]
    loadsMaterials := fun _ => true
    clock := fun _ => .at 0 }

theorem validated_config_materializes_channel :
    ∃ validated after,
      validateRuntime (PatternCache.empty wordEngine) channelConfig = .ok (validated, after) ∧
      ∃ materialized,
        MaterializedRuntimeConfig.build channelSurroundings validated = .ok materialized ∧
        ∀ route, channelConfig.HasRoute route →
          ∀ destination ∈ route.policy.action.destinations,
            ∃ cluster, materialized.upstreamManager.get destination.upstream = some cluster ∧
              cluster.currentEndpoints ≠ [] := by
  obtain ⟨validated, after, accepted⟩ := validateRuntime_of_check
    (show (checkRuntime (PatternCache.empty wordEngine) channelConfig).isOk = true by
      decide +kernel)
  refine ⟨validated, after, accepted,
    validated_config_materializes accepted channelSurroundings ?_ ?_ ?_ ?_⟩
  · decide
  · exact ⟨by decide, by decide, by decide⟩
  · intro upstream listed endpoint _ host port _
    exact ⟨.v4 192 0 2 7, [], rfl⟩
  · intro upstream listed
    rfl

end Pavis.State
