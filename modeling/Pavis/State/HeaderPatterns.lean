/-
The cache of header patterns.

Three nested loops meet every pattern of a header, count it and compile it unless it is in
the cache.
-/

import Pavis.Routing.HostSpelling
import Pavis.State.Materialized

namespace Pavis.State

open ByteText Config Fallible FirstMatch KeyedMap Upstream
open Routing (CompiledRegex CompiledRoute CompiledVirtualHost ExactMap HeaderPredicate
  HeaderPredicates PredicateStats RegexCache RegexEngine Request Router RouteZone wordEngine)

def predicatePatterns (predicate : HeaderPredicate) : List Text :=
  match predicate.matcher with
  | .regex pattern => [pattern]
  | .present | .exact _ | .prefixed _ | .absent => []

/-- The patterns in the order the loops meet them. -/
def hostPatterns (vhost : VirtualHost) : List Text :=
  vhost.paths.flatMap fun path => headerPatterns path.matcher.headers

def configPatterns (routes : List VirtualHost) : List Text := routes.flatMap hostPatterns

theorem headerPatterns_some (predicates : List HeaderPredicate) :
    headerPatterns (.some predicates) = predicates.flatMap predicatePatterns := by
  induction predicates with
  | nil => rfl
  | cons predicate rest ih =>
    rw [List.flatMap_cons, ← ih]
    unfold headerPatterns predicatePatterns
    cases matcher : predicate.matcher <;> simp [matcher]

theorem mem_configPatterns {routes : List VirtualHost} {pattern : Text} :
    pattern ∈ configPatterns routes ↔ ∃ vhost ∈ routes, ∃ path ∈ vhost.paths,
      pattern ∈ headerPatterns path.matcher.headers := by
  simp only [configPatterns, hostPatterns, List.mem_flatMap]

theorem zipIdx_flatMap {α β : Type} (items : List α) (collect : α → List β) :
    (items.zipIdx.flatMap fun item => collect item.1) = items.flatMap collect := by
  conv_rhs => rw [← List.zipIdx_map_fst 0 items, List.flatMap_map]

def ownRegex (pattern : Text) : CompiledRegex :=
  { pattern := pattern, compiled := { pattern := pattern } }

/-- The patterns met so far compile, and they are what the cache holds. -/
structure CacheOf (compiler : ByteRegexCompiler) (limits : RegexLimits) (seen : List Text)
    (compiled : Map Text CompiledRegex) : Prop where
  compile : ∀ pattern ∈ seen, compiler.compiles pattern = true ∧
    compiler.compilesWithin pattern limits.sizeLimitBytes = true
  lookup : ∀ pattern, compiled.lookup pattern =
    if pattern ∈ seen then some (ownRegex pattern) else none

section

variable {compiler : ByteRegexCompiler} {limits : RegexLimits} {seen : List Text}
  {compiled after : Map Text CompiledRegex}

theorem CacheOf.empty : CacheOf compiler limits [] ∅ :=
  ⟨fun _ member => absurd member List.not_mem_nil, fun _ => rfl⟩

section

variable (cache : CacheOf compiler limits seen compiled)

include cache

theorem CacheOf.again {pattern : Text} (known : pattern ∈ seen) :
    CacheOf compiler limits (seen ++ [pattern]) compiled := by
  have same : ∀ other, other ∈ seen ++ [pattern] ↔ other ∈ seen := by
    intro other
    rw [List.mem_append, List.mem_singleton]
    constructor
    · rintro (earlier | rfl)
      · exact earlier
      · exact known
    · exact Or.inl
  refine ⟨fun other member => cache.compile other ((same other).mp member), fun other => ?_⟩
  rw [cache.lookup other]
  simp only [same]

theorem CacheOf.added {pattern : Text} (compiles : compiler.compiles pattern = true)
    (fits : compiler.compilesWithin pattern limits.sizeLimitBytes = true) :
    CacheOf compiler limits (seen ++ [pattern]) (compiled.insert pattern (ownRegex pattern)) := by
  constructor
  · intro other member
    rcases List.mem_append.mp member with earlier | newest
    · exact cache.compile other earlier
    · rw [List.mem_singleton.mp newest]
      exact ⟨compiles, fits⟩
  · intro other
    by_cases same : other = pattern
    · rw [same, AList.lookup_insert, if_pos (by simp)]
    · rw [AList.lookup_insert_ne same, cache.lookup other]
      simp [same]

theorem CacheOf.pattern {site : PatternSite} {pattern : Text}
    (ran : compileRegexPattern compiler limits site pattern compiled = .ok after) :
    CacheOf compiler limits (seen ++ [pattern]) after := by
  unfold compileRegexPattern at ran
  split at ran
  · rename_i present
    obtain rfl := Except.ok.inj ran
    refine cache.again ?_
    rw [cache.lookup] at present
    by_contra unknown
    rw [if_neg unknown] at present
    cases present
  · obtain ⟨_, compiles, later⟩ := bind_eq_ok.mp ran
    obtain ⟨_, fits, same⟩ := bind_eq_ok.mp later
    obtain rfl := Except.ok.inj same
    exact cache.added (by simpa using reject_eq_ok.mp compiles)
      (by simpa using reject_eq_ok.mp fits)

theorem CacheOf.predicate {route path : Nat} {predicate : HeaderPredicate × Nat}
    (ran : compileFromPredicate compiler limits route path compiled predicate = .ok after) :
    CacheOf compiler limits (seen ++ predicatePatterns predicate.1) after := by
  unfold compileFromPredicate at ran
  unfold predicatePatterns
  cases matcher : predicate.1.matcher with
  | regex pattern =>
    rw [matcher] at ran
    exact cache.pattern ran
  | present | exact _ | prefixed _ | absent =>
    rw [matcher] at ran
    obtain rfl := Except.ok.inj ran
    rw [List.append_nil]
    exact cache

theorem CacheOf.path {route : Nat} {path : Config.Route × Nat}
    (ran : collectAndCompileFromMatcher compiler limits route compiled path = .ok after) :
    CacheOf compiler limits (seen ++ headerPatterns path.1.matcher.headers) after := by
  unfold collectAndCompileFromMatcher at ran
  cases headers : path.1.matcher.headers with
  | none =>
    rw [headers] at ran
    obtain rfl := Except.ok.inj ran
    rw [headerPatterns, List.append_nil]
    exact cache
  | some =>
    rw [headers] at ran
    rw [headerPatterns_some, ← zipIdx_flatMap]
    exact foldlM_collects (fun predicate => predicatePatterns predicate.1)
      (CacheOf compiler limits) (fun _ _ _ _ step before => before.predicate step) ran cache

end

theorem CacheOf.host {scan next : RegexScan} {route : VirtualHost × Nat}
    (ran : scanRoute compiler limits scan route = .ok next)
    (cache : CacheOf compiler limits seen scan.compiled) :
    CacheOf compiler limits (seen ++ hostPatterns route.1) next.compiled := by
  obtain ⟨_, _, later⟩ := bind_eq_ok.mp ran
  obtain ⟨compiled, collected, same⟩ := bind_eq_ok.mp later
  obtain rfl := Except.ok.inj same
  rw [hostPatterns, ← zipIdx_flatMap]
  exact foldlM_collects (fun path => headerPatterns path.1.matcher.headers)
    (CacheOf compiler limits) (fun _ _ _ _ step before => before.path step) collected cache

private theorem scanRoute_perRoute {scan next : RegexScan} {route : VirtualHost × Nat}
    (ran : scanRoute compiler limits scan route = .ok next) :
    countRegexesInRoute route.1 ≤ limits.maxRegexPerRoute := by
  obtain ⟨_, few, _⟩ := bind_eq_ok.mp ran
  exact Nat.le_of_not_lt (reject_eq_ok.mp few)

theorem validateAndCompileRegexes_ok {routes : List VirtualHost}
    (ran : validateAndCompileRegexes compiler limits routes = .ok compiled) :
    RegexesWithinLimits compiler limits routes ∧
      CacheOf compiler limits (configPatterns routes) compiled := by
  obtain ⟨scan, scanned, later⟩ := bind_eq_ok.mp ran
  obtain ⟨_, few, same⟩ := bind_eq_ok.mp later
  obtain rfl := Except.ok.inj same
  have cache : CacheOf compiler limits (configPatterns routes) scan.compiled := by
    rw [configPatterns, ← zipIdx_flatMap]
    exact foldlM_collects (fun route => hostPatterns route.1)
      (fun seen scan => CacheOf compiler limits seen scan.compiled)
      (fun _ _ _ _ step before => CacheOf.host step before) scanned CacheOf.empty
  have counts := foldlM_forall
    (fun route : VirtualHost × Nat => countRegexesInRoute route.1 ≤ limits.maxRegexPerRoute)
    (fun _ _ _ step => scanRoute_perRoute step) scanned
  refine ⟨⟨?_, ?_, ?_⟩, cache⟩
  · intro vhost listed path member pattern used
    exact cache.compile pattern (mem_configPatterns.mpr ⟨vhost, listed, path, member, used⟩)
  · intro vhost listed
    obtain ⟨position, found⟩ := List.getElem?_of_mem listed
    exact counts (vhost, position) (List.mem_zipIdx_iff_getElem?.mpr found)
  · have total := scanRoutes_total scanned
    rw [zipIdx_counts, Nat.zero_add] at total
    rw [← total]
    exact Nat.le_of_not_lt (reject_eq_ok.mp few)

end

/-! ### Searching with the cache -/

/-- The cache with another answer for the patterns that are missing. -/
def RegexCache.orElse (cache : RegexCache) (missing : Text → Option CompiledRegex) : RegexCache :=
  { cache with cached := fun pattern => (cache.cached pattern).or (missing pattern) }

def RegexCache.Covers (cache : RegexCache) (headers : HeaderPredicates) : Prop :=
  ∀ pattern ∈ headerPatterns headers, (cache.cached pattern).isSome = true

section

variable {cache : RegexCache} (missing : Text → Option CompiledRegex) (request : Request)

private theorem matchesHeaderPredicate_orElse {predicate : HeaderPredicate}
    (covers : ∀ pattern ∈ predicatePatterns predicate, (cache.cached pattern).isSome = true)
    (stats : PredicateStats) :
    Routing.matchesHeaderPredicate (RegexCache.orElse cache missing) request predicate stats =
      Routing.matchesHeaderPredicate cache request predicate stats := by
  unfold predicatePatterns at covers
  unfold Routing.matchesHeaderPredicate
  cases request.header predicate.name with
  | none => cases predicate.matcher <;> rfl
  | some =>
    cases matcher : predicate.matcher with
    | regex pattern =>
      rw [matcher] at covers
      obtain ⟨compiled, found⟩ := Option.isSome_iff_exists.mp
        (covers pattern List.mem_cons_self)
      have same : (RegexCache.orElse cache missing).cached pattern = some compiled := by
        simp only [RegexCache.orElse, found, Option.some_or]
      simp only [same, found]
      rfl
    | present | exact _ | prefixed _ | absent => rfl

theorem matchesHeaders_orElse {headers : HeaderPredicates}
    (covers : RegexCache.Covers cache headers) (stats : PredicateStats) :
    Routing.matchesHeaders (RegexCache.orElse cache missing) request headers stats =
      Routing.matchesHeaders cache request headers stats := by
  cases headers with
  | none => rfl
  | some =>
    refine allOf_congr (fun predicate member counters => ?_) stats
    refine matchesHeaderPredicate_orElse missing request (fun pattern used => ?_) counters
    apply covers
    rw [headerPatterns_some]
    exact List.mem_flatMap.mpr ⟨predicate, member, used⟩

variable {paths : List Config.Route}
  (covers : ∀ path ∈ paths, RegexCache.Covers cache path.matcher.headers)
include covers

theorem tryCompiled_orElse (compiled : CompiledRoute paths.length) (stats : PredicateStats) :
    Routing.tryCompiled (RegexCache.orElse cache missing) request paths compiled stats =
      Routing.tryCompiled cache request paths compiled stats := by
  unfold Routing.tryCompiled
  dsimp only
  rw [matchesHeaders_orElse missing request (covers _ (List.get_mem paths compiled.index))]
  rfl

private theorem tryExact_orElse (map : ExactMap paths.length) (stats : PredicateStats) :
    Routing.tryExact (RegexCache.orElse cache missing) request paths map stats =
      Routing.tryExact cache request paths map stats := by
  unfold Routing.tryExact
  split
  · rfl
  · rename_i compiled _
    dsimp only
    rw [matchesHeaders_orElse missing request (covers _ (List.get_mem paths compiled.index))]

private theorem tryZone_orElse (zone : RouteZone paths.length) (stats : PredicateStats) :
    Routing.tryZone (RegexCache.orElse cache missing) request paths zone stats =
      Routing.tryZone cache request paths zone stats := by
  cases zone with
  | linear =>
    exact firstSome_congr
      (fun route _ counters => tryCompiled_orElse missing request covers route counters) stats
  | exactMap map => exact tryExact_orElse missing request covers map stats

end

/-- The virtual hosts a router searches. -/
def Router.Searches (router : Router RoutePolicy) (vhost : CompiledVirtualHost RoutePolicy) :
    Prop :=
  (∃ name, router.exactHosts.lookup name = some vhost) ∨ vhost ∈ router.wildcardHosts

/-- The cache of a router has every pattern the router may evaluate. -/
def Router.CachesAll (router : Router RoutePolicy) : Prop :=
  ∀ vhost, Searches router vhost → ∀ path ∈ vhost.config.paths,
    RegexCache.Covers router.cache path.matcher.headers

def Router.orElse (router : Router RoutePolicy) (missing : Text → Option CompiledRegex) :
    Router RoutePolicy :=
  { router with cache := RegexCache.orElse router.cache missing }

section

variable {router : Router RoutePolicy} (caches : Router.CachesAll router)
  (missing : Text → Option CompiledRegex) (request : Request)
include caches

theorem tryMatch_orElse {vhost : CompiledVirtualHost RoutePolicy}
    (searched : Router.Searches router vhost) :
    Routing.tryMatch (RegexCache.orElse router.cache missing) request vhost =
      Routing.tryMatch router.cache request vhost := by
  have found : firstSome (Routing.tryZone (RegexCache.orElse router.cache missing) request
        vhost.config.paths) vhost.zones PredicateStats.zero =
      firstSome (Routing.tryZone router.cache request vhost.config.paths) vhost.zones
        PredicateStats.zero :=
    firstSome_congr
      (fun zone _ counters => tryZone_orElse missing request (caches vhost searched) zone counters)
      PredicateStats.zero
  unfold Routing.tryMatch
  dsimp only
  rw [found]

private theorem matchWildcards_orElse (host : Option Text) (aggregate : PredicateStats) :
    Routing.matchWildcards (Router.orElse router missing) request host aggregate =
      Routing.matchWildcards router request host aggregate := by
  have found : firstSome (Routing.tryWildcard (Router.orElse router missing).cache request host)
        (Router.orElse router missing).wildcardHosts aggregate =
      firstSome (Routing.tryWildcard router.cache request host) router.wildcardHosts aggregate := by
    refine firstSome_congr (fun vhost member counters => ?_) aggregate
    unfold Routing.tryWildcard Router.orElse
    rw [tryMatch_orElse caches missing request (.inr member)]
  unfold Routing.matchWildcards
  dsimp only
  rw [found]

private theorem matchRequest_orElse :
    Routing.matchRequest (Router.orElse router missing) request =
      Routing.matchRequest router request := by
  have wildcards : ∀ host aggregate,
      Routing.matchWildcards (Router.orElse router missing) request host aggregate =
        Routing.matchWildcards router request host aggregate :=
    matchWildcards_orElse caches missing request
  unfold Routing.matchRequest
  dsimp only
  rw [show (Router.orElse router missing).exactHosts = router.exactHosts from rfl]
  cases named : (request.hostHeader.map Routing.normalizeHost).bind router.exactHosts.lookup with
  | none => exact wildcards _ _
  | some vhost =>
    obtain ⟨name, _, found⟩ := Option.bind_eq_some_iff.mp named
    have tried : Routing.tryMatch (Router.orElse router missing).cache request vhost =
        Routing.tryMatch router.cache request vhost :=
      tryMatch_orElse caches missing request (.inl ⟨name, found⟩)
    dsimp only
    rw [tried, wildcards]

end

private theorem addHost_cache {router after : Router RoutePolicy} {vhost : VirtualHost}
    (ran : router.addHost vhost = .ok after) : after.cache = router.cache := by
  unfold Routing.Router.addHost at ran
  split at ran
  · cases ran
  · obtain rfl := Except.ok.inj ran
    unfold Routing.Router.insert
    split <;> rfl

private theorem cachesAll_of_withRegex {routes : List VirtualHost} {cache : RegexCache}
    {router : Router RoutePolicy} (ran : Router.withRegex routes cache = .ok router)
    (covers : ∀ pattern ∈ configPatterns routes, (cache.cached pattern).isSome = true) :
    Router.CachesAll router := by
  have same : router.cache = cache := foldlM_kept (fun router => router.cache = cache)
    (fun _ _ _ step kept => (addHost_cache step).trans kept) ran rfl
  have lists := Routing.Router.lists_withRegex ran
  intro vhost searched path member pattern used
  have listed : vhost.config ∈ routes := by
    rcases searched with ⟨name, found⟩ | wildcard
    · exact (lists.exact name vhost found).1
    · exact (lists.wildcard vhost wildcard).1
  rw [same]
  exact covers pattern (mem_configPatterns.mpr ⟨vhost.config, listed, path, member, used⟩)

private theorem build_cachesAll {engine : RegexEngine} {surroundings : Surroundings}
    {config : ValidatedRuntimeConfig engine} {materialized : MaterializedRuntimeConfig}
    (built : MaterializedRuntimeConfig.build surroundings config = .ok materialized) :
    Router.CachesAll materialized.router := by
  simp only [MaterializedRuntimeConfig.build, bind_eq_ok] at built
  obtain ⟨compiled, validated, router, routed, manager, _, same⟩ := built
  obtain rfl := Except.ok.inj same
  have cache := (validateAndCompileRegexes_ok (mapError_eq_ok.mp validated)).2
  refine cachesAll_of_withRegex (mapError_eq_ok.mp routed) (fun pattern used => ?_)
  dsimp only
  rw [cache.lookup, if_pos used]
  rfl

/-- The patterns are accepted exactly if they compile and are not too many, the cache has
exactly the patterns of the headers, and no request meets one that is missing. -/
theorem header_regex_cache_exact :
    (∀ compiler limits routes,
      (∃ compiled, validateAndCompileRegexes compiler limits routes = .ok compiled) ↔
        RegexesWithinLimits compiler limits routes) ∧
    (∀ compiler limits routes compiled,
      validateAndCompileRegexes compiler limits routes = .ok compiled →
        (∀ pattern, pattern ∈ compiled ↔ pattern ∈ configPatterns routes) ∧
        ∀ pattern ∈ configPatterns routes, compiled.lookup pattern = some (ownRegex pattern)) ∧
    ∀ (engine : RegexEngine) (surroundings : Surroundings)
      (config : ValidatedRuntimeConfig engine) (materialized : MaterializedRuntimeConfig),
      MaterializedRuntimeConfig.build surroundings config = .ok materialized →
        Router.CachesAll materialized.router ∧
        ∀ missing request,
          Routing.matchRequest (Router.orElse materialized.router missing) request =
            Routing.matchRequest materialized.router request := by
  refine ⟨?_, ?_, ?_⟩
  · intro compiler limits routes
    constructor
    · rintro ⟨compiled, ran⟩
      exact (validateAndCompileRegexes_ok ran).1
    · exact validateAndCompileRegexes_succeeds
  · intro compiler limits routes compiled ran
    have cache := (validateAndCompileRegexes_ok ran).2
    refine ⟨fun pattern => ?_, fun pattern used => ?_⟩
    · rw [← AList.lookup_isSome, cache.lookup]
      split
      · rename_i used
        simp [used]
      · rename_i unused
        simp [unused]
    · rw [cache.lookup, if_pos used]
  · intro engine surroundings config materialized built
    have caches := build_cachesAll built
    exact ⟨caches, fun missing request => matchRequest_orElse caches missing request⟩

theorem channel_cache_exact :
    ∃ compiled validated after materialized,
      validateAndCompileRegexes wordCompiler .default channelConfig.routes = .ok compiled ∧
      configPatterns channelConfig.routes = [literal "beta"] ∧
      compiled.lookup (literal "beta") = some (ownRegex (literal "beta")) ∧
      validateRuntime (PatternCache.empty wordEngine) channelConfig = .ok (validated, after) ∧
      MaterializedRuntimeConfig.build channelSurroundings validated = .ok materialized ∧
      Router.CachesAll materialized.router := by
  have within : RegexesWithinLimits channelSurroundings.compiler channelConfig.features.regexLimits
      channelConfig.routes :=
    ⟨by decide, by decide, by decide⟩
  obtain ⟨compiled, ran⟩ := (header_regex_cache_exact.1 _ _ _).mpr within
  have used : literal "beta" ∈ configPatterns channelConfig.routes := by decide
  have passes : (checkRuntime (PatternCache.empty wordEngine) channelConfig).isOk = true := by
    decide +kernel
  obtain ⟨validated, after, materialized, accepted, built, _⟩ :=
    validate_and_build channelSurroundings (by decide) within
      (fun _ _ _ _ _ _ _ => ⟨.v4 192 0 2 7, [], rfl⟩) (fun _ _ => rfl) passes
  exact ⟨compiled, validated, after, materialized, ran, by decide,
    (header_regex_cache_exact.2.1 _ _ _ _ ran).2 _ used, accepted, built,
    (header_regex_cache_exact.2.2 _ _ _ _ built).1⟩

end Pavis.State
