/-
Matching a request.

The host named by the request is tried first, then the hosts with a wildcard in
their order. Within a host the zones are searched in order. Every search keeps
the counters of what it evaluated and missed.
-/

import Pavis.Routing.Compile

namespace Pavis.Routing

open ByteText FirstMatch

variable {ρ : Type}

structure Selection (ρ : Type) where
  vhost : VirtualHost ρ
  index : Fin vhost.paths.length

def Selection.route (selection : Selection ρ) : Route ρ :=
  selection.vhost.paths.get selection.index

structure MatchVerdict (ρ : Type) where
  selection : Option (Selection ρ)
  stats : PredicateStats

def pathMatches (cache : RegexCache) (request : Request) (path : PathMatch)
    (regex : Option Regex) : Bool :=
  match path with
  | .prefixed path => startsWith request.uriPath path
  | .exact path => request.uriPath == path
  | .regex _ => regex.any fun regex => cache.engine.isMatch regex.pattern request.uriPath

def tryCompiled (cache : RegexCache) (request : Request) (paths : List (Route ρ))
    (compiled : CompiledRoute paths.length) (stats : PredicateStats) :
    Option (Fin paths.length) × PredicateStats :=
  let matcher := (paths.get compiled.index).matcher
  if !pathMatches cache request matcher.path compiled.regex then (none, stats.recordPathMiss)
  else if !matchesMethod matcher.method request.method then (none, stats.recordMethodMiss)
  else
    match matchesHeaders cache request matcher.headers stats with
    | (true, stats) => (some compiled.index, stats)
    | (false, stats) => (none, stats.recordHeaderMiss)

/-- A route found in the map is still asked for its method and headers. -/
def tryExact (cache : RegexCache) (request : Request) (paths : List (Route ρ))
    (map : ExactMap paths.length) (stats : PredicateStats) :
    Option (Fin paths.length) × PredicateStats :=
  match map.lookup request.uriPath with
  | none => (none, stats.recordPathMiss)
  | some compiled =>
    let matcher := (paths.get compiled.index).matcher
    if !matchesMethod matcher.method request.method then (none, stats.recordMethodMiss)
    else
      match matchesHeaders cache request matcher.headers stats with
      | (true, stats) => (some compiled.index, stats)
      | (false, stats) => (none, stats.recordHeaderMiss)

def tryZone (cache : RegexCache) (request : Request) (paths : List (Route ρ))
    (zone : RouteZone paths.length) (stats : PredicateStats) :
    Option (Fin paths.length) × PredicateStats :=
  match zone with
  | .linear compiled => firstSome (tryCompiled cache request paths) compiled stats
  | .exactMap map => tryExact cache request paths map stats

def tryMatch (cache : RegexCache) (request : Request) (vhost : CompiledVirtualHost ρ) :
    MatchVerdict ρ :=
  let found := firstSome (tryZone cache request vhost.config.paths) vhost.zones PredicateStats.zero
  { selection := found.1.map fun index => { vhost := vhost.config, index := index }
    stats := found.2 }

def normalizeHost (host : Text) : Text :=
  match (stripPrefix host (literal "[")).bind (splitOnce (ascii ']')) with
  | some (bracketed, _) => bracketed
  | none =>
    match splitOnce (ascii ':') host with
    | some (hostOnly, _) => hostOnly
    | none => host

def hostMatches (pattern : Text) (host : Option Text) : Bool :=
  if pattern = literal "*" then true
  else
    match stripPrefix pattern (literal "*.") with
    | some suffix =>
      host.any fun host =>
        endsWith host suffix && decide (host.length > suffix.length) &&
          host[host.length - suffix.length - 1]? == some (ascii '.')
    | none =>
      match stripSuffix pattern (literal ".*") with
      | some start =>
        host.any fun host =>
          startsWith host start && decide (host.length > start.length) &&
            host[start.length]? == some (ascii '.')
      | none => host.any fun host => host == pattern

def tryWildcard (cache : RegexCache) (request : Request) (host : Option Text)
    (vhost : CompiledVirtualHost ρ) (aggregate : PredicateStats) :
    Option (Selection ρ) × PredicateStats :=
  if !hostMatches vhost.config.host host then (none, aggregate)
  else
    let verdict := tryMatch cache request vhost
    (verdict.selection, aggregate.addAssign verdict.stats)

def matchWildcards (router : Router ρ) (request : Request) (host : Option Text)
    (aggregate : PredicateStats) : MatchVerdict ρ :=
  let found := firstSome (tryWildcard router.cache request host) router.wildcardHosts aggregate
  { selection := found.1, stats := found.2 }

def matchRequest (router : Router ρ) (request : Request) : MatchVerdict ρ :=
  let normalizedHost := request.hostHeader.map normalizeHost
  match normalizedHost.bind router.exactHosts.lookup with
  | none => matchWildcards router request normalizedHost PredicateStats.zero
  | some vhost =>
    let verdict := tryMatch router.cache request vhost
    let aggregate := PredicateStats.zero.addAssign verdict.stats
    match verdict.selection with
    | some selection => { selection := some selection, stats := aggregate }
    | none => matchWildcards router request normalizedHost aggregate

variable {paths : List (Route ρ)}

theorem pathMatches_eq {compiled : CompiledRoute paths.length} (faithful : compiled.Faithful paths)
    (cache : RegexCache) (request : Request) :
    pathMatches cache request (paths.get compiled.index).matcher.path compiled.regex =
      (paths.get compiled.index).matcher.path.holds cache.engine request.uriPath := by
  unfold CompiledRoute.Faithful at faithful
  rw [faithful]
  cases (paths.get compiled.index).matcher.path <;> rfl

theorem tryCompiled_fst {compiled : CompiledRoute paths.length} (faithful : compiled.Faithful paths)
    (cache : RegexCache) (request : Request) (stats : PredicateStats) :
    (tryCompiled cache request paths compiled stats).1 =
      Option.guard (fun index => (paths.get index).matcher.holds cache request)
        compiled.index := by
  have headers := matchesHeaders_fst cache request (paths.get compiled.index).matcher.headers stats
  change _ = if (paths.get compiled.index).matcher.holds cache request then some compiled.index
    else none
  unfold tryCompiled RouteMatcher.holds
  simp only
  rw [pathMatches_eq faithful, ← headers]
  cases (paths.get compiled.index).matcher.path.holds cache.engine request.uriPath with
  | false => rfl
  | true =>
    cases matchesMethod (paths.get compiled.index).matcher.method request.method with
    | false => rfl
    | true =>
      cases matchesHeaders cache request (paths.get compiled.index).matcher.headers stats with
      | mk passed => cases passed <;> rfl

private theorem tryExact_fst {map : ExactMap paths.length} (faithful : map.Faithful paths)
    (cache : RegexCache) (request : Request) (stats : PredicateStats) :
    (tryExact cache request paths map stats).1 =
      (map.lookup request.uriPath).map CompiledRoute.index := by
  unfold tryExact
  cases found : map.lookup request.uriPath with
  | none => rfl
  | some compiled =>
    have matcherAt := faithful request.uriPath compiled found
    simp only [matcherAt]
    rfl

private theorem tryZone_fst {zone : RouteZone paths.length} (faithful : zone.Faithful paths)
    (cache : RegexCache) (request : Request) (stats : PredicateStats) :
    (tryZone cache request paths zone stats).1 = zone.first cache request paths := by
  cases zone with
  | exactMap => exact tryExact_fst faithful cache request stats
  | linear compiled =>
    change (firstSome (tryCompiled cache request paths) compiled stats).1 =
      (compiled.map CompiledRoute.index).find? _
    rw [List.find?_eq_findSome?_guard, List.findSome?_map]
    exact firstSome_fst
      (fun route member => tryCompiled_fst (faithful route member) cache request) stats

theorem tryMatch_selection {vhost : CompiledVirtualHost ρ} (faithful : vhost.Faithful)
    (cache : RegexCache) (request : Request) :
    (tryMatch cache request vhost).selection =
      (firstRoute cache request vhost.config.paths
        (List.finRange vhost.config.paths.length)).map
        fun index => { vhost := vhost.config, index := index } := by
  have found := firstSome_fst
    (fun zone member => tryZone_fst (faithful.zones zone member) cache request)
    PredicateStats.zero
  unfold tryMatch
  simp only
  rw [found, ← faithful.first cache request]
  rfl

private theorem matchWildcards_selection (router : Router ρ) (request : Request)
    (host : Option Text) (aggregate : PredicateStats) :
    (matchWildcards router request host aggregate).selection =
      router.wildcardHosts.findSome? fun vhost =>
        if hostMatches vhost.config.host host then
          (tryMatch router.cache request vhost).selection
        else none := by
  refine firstSome_fst (fun vhost _ counters => ?_) aggregate
  unfold tryWildcard
  cases hostMatches vhost.config.host host <;> rfl

theorem matchRequest_selection (router : Router ρ) (request : Request) :
    (matchRequest router request).selection =
      (((request.hostHeader.map normalizeHost).bind router.exactHosts.lookup).bind fun vhost =>
          (tryMatch router.cache request vhost).selection).or
        (router.wildcardHosts.findSome? fun vhost =>
          if hostMatches vhost.config.host (request.hostHeader.map normalizeHost) then
            (tryMatch router.cache request vhost).selection
          else none) := by
  unfold matchRequest
  generalize request.hostHeader.map normalizeHost = host
  simp only
  cases host.bind fun name => AList.lookup name router.exactHosts with
  | none => exact matchWildcards_selection router request host _
  | some vhost =>
    simp only [Option.bind_some]
    cases (tryMatch router.cache request vhost).selection with
    | some => rfl
    | none => exact matchWildcards_selection router request host _

end Pavis.Routing
