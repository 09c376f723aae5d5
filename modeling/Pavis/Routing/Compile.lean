/-
Compiling the virtual hosts.

The routes of a virtual host are cut into zones: runs of exact paths without
further predicates become a map, everything else stays a list. A compiled route
is an index into the routes of its host, so the index is always in range.
-/

import Pavis.Library.Fallible
import Pavis.Routing.Predicates

namespace Pavis.Routing

open ByteText Fallible FirstMatch

variable {ρ : Type}

structure CompiledRoute (routes : Nat) where
  index : Fin routes
  regex : Option Regex
  deriving DecidableEq

abbrev ExactMap (routes : Nat) := AList fun _ : Text => CompiledRoute routes

inductive RouteZone (routes : Nat) where
  | linear (compiled : List (CompiledRoute routes))
  | exactMap (map : ExactMap routes)

structure CompiledVirtualHost (ρ : Type) where
  config : VirtualHost ρ
  zones : List (RouteZone config.paths.length)

structure Router (ρ : Type) where
  exactHosts : AList fun _ : Text => CompiledVirtualHost ρ
  wildcardHosts : List (CompiledVirtualHost ρ)
  cache : RegexCache

/-- The zones finished so far and the one being filled. -/
structure ZoneBuilder (routes : Nat) where
  zones : List (RouteZone routes)
  currentLinear : Option (List (CompiledRoute routes))
  currentMap : Option (ExactMap routes)

namespace ZoneBuilder

variable {routes : Nat}

def empty : ZoneBuilder routes := { zones := [], currentLinear := none, currentMap := none }

def flushLinear (builder : ZoneBuilder routes) : ZoneBuilder routes :=
  { builder with
    zones := builder.zones ++ (builder.currentLinear.map RouteZone.linear).toList
    currentLinear := none }

def flushMap (builder : ZoneBuilder routes) : ZoneBuilder routes :=
  { builder with
    zones := builder.zones ++ (builder.currentMap.map RouteZone.exactMap).toList
    currentMap := none }

/-- The first route with a path stays in the map. -/
def pushExact (builder : ZoneBuilder routes) (path : Text) (compiled : CompiledRoute routes) :
    ZoneBuilder routes :=
  { builder with
    currentMap := some
      (match builder.currentMap with
      | some map => orInsert map path compiled
      | none => AList.insert path compiled ∅) }

def pushLinear (builder : ZoneBuilder routes) (compiled : CompiledRoute routes) :
    ZoneBuilder routes :=
  { builder with
    currentLinear := some
      (match builder.currentLinear with
      | some linear => linear ++ [compiled]
      | none => [compiled]) }

def finish (builder : ZoneBuilder routes) : List (RouteZone routes) :=
  builder.flushLinear.flushMap.zones

end ZoneBuilder

def RouteMatcher.hasPredicates (matcher : RouteMatcher) : Bool :=
  matcher.method != .any || matcher.headers != .none

/-- A pattern that does not compile is the error. -/
def Regex.new (engine : RegexEngine) (pattern : Text) : Except Text Regex :=
  if engine.compiles pattern then .ok { pattern := pattern } else .error pattern

def addRoute (engine : RegexEngine) (paths : List (Route ρ))
    (builder : ZoneBuilder paths.length) (index : Fin paths.length) :
    Except Text (ZoneBuilder paths.length) :=
  let matcher := (paths.get index).matcher
  match matcher.path, matcher.hasPredicates with
  | .exact path, false => .ok (builder.flushLinear.pushExact path { index := index, regex := none })
  | .regex pattern, _ =>
    match Regex.new engine pattern with
    | .error reason => .error reason
    | .ok regex => .ok (builder.flushMap.pushLinear { index := index, regex := some regex })
  | _, _ => .ok (builder.flushMap.pushLinear { index := index, regex := none })

def compileVirtualHost (engine : RegexEngine) (vhost : VirtualHost ρ) :
    Except Text (CompiledVirtualHost ρ) :=
  match (List.finRange vhost.paths.length).foldlM (addRoute engine vhost.paths)
      ZoneBuilder.empty with
  | .error reason => .error reason
  | .ok builder => .ok { config := vhost, zones := builder.finish }

def isWildcard (host : Text) : Bool := host == literal "*" || contains host (ascii '*')

def Router.insert (router : Router ρ) (compiled : CompiledVirtualHost ρ) : Router ρ :=
  if isWildcard compiled.config.host then
    { router with wildcardHosts := router.wildcardHosts ++ [compiled] }
  else
    { router with exactHosts := router.exactHosts.insert compiled.config.host compiled }

def Router.addHost (router : Router ρ) (vhost : VirtualHost ρ) : Except Text (Router ρ) :=
  match compileVirtualHost router.cache.engine vhost with
  | .error reason => .error reason
  | .ok compiled => .ok (router.insert compiled)

def Router.withRegex (routes : List (VirtualHost ρ)) (cache : RegexCache) :
    Except Text (Router ρ) :=
  routes.foldlM Router.addHost { exactHosts := ∅, wildcardHosts := [], cache := cache }

/-- What is known of a compiled route in a list: its expression is that of its
path. -/
def CompiledRoute.Faithful (paths : List (Route ρ)) (compiled : CompiledRoute paths.length) :
    Prop :=
  compiled.regex =
    match (paths.get compiled.index).matcher.path with
    | .regex pattern => some { pattern := pattern }
    | .prefixed _ => none
    | .exact _ => none

def ExactMap.Faithful (paths : List (Route ρ)) (map : ExactMap paths.length) : Prop :=
  ∀ path compiled, map.lookup path = some compiled →
    (paths.get compiled.index).matcher = { path := .exact path, method := .any, headers := .none }

def RouteZone.Faithful (paths : List (Route ρ)) : RouteZone paths.length → Prop
  | .linear compiled => ∀ route ∈ compiled, route.Faithful paths
  | .exactMap map => map.Faithful paths

/-- The route a zone stands for under a request. -/
def RouteZone.first (cache : RegexCache) (request : Request) (paths : List (Route ρ)) :
    RouteZone paths.length → Option (Fin paths.length)
  | .linear compiled =>
    (compiled.map CompiledRoute.index).find? fun index =>
      (paths.get index).matcher.holds cache request
  | .exactMap map => (map.lookup request.uriPath).map CompiledRoute.index

def firstInZones (cache : RegexCache) (request : Request) (paths : List (Route ρ))
    (zones : List (RouteZone paths.length)) : Option (Fin paths.length) :=
  zones.findSome? (RouteZone.first cache request paths)

def firstRoute (cache : RegexCache) (request : Request) (paths : List (Route ρ))
    (indices : List (Fin paths.length)) : Option (Fin paths.length) :=
  indices.find? fun index => (paths.get index).matcher.holds cache request

/-! ### The invariant of the loop -/

/-- Only one zone is being filled, and all zones are faithful. -/
structure ZoneBuilder.Valid (paths : List (Route ρ)) (builder : ZoneBuilder paths.length) :
    Prop where
  exclusive : builder.currentLinear = none ∨ builder.currentMap = none
  zones : ∀ zone ∈ builder.zones, zone.Faithful paths
  linear : ∀ linear, builder.currentLinear = some linear → (RouteZone.linear linear).Faithful paths
  map : ∀ map, builder.currentMap = some map → map.Faithful paths

/-- The routes seen so far are found in their order. -/
def ZoneBuilder.Represents (paths : List (Route ρ)) (builder : ZoneBuilder paths.length)
    (seen : List (Fin paths.length)) : Prop :=
  ∀ cache request, firstInZones cache request paths builder.finish =
    firstRoute cache request paths seen

section
variable {paths : List (Route ρ)} {builder : ZoneBuilder paths.length}

theorem ZoneBuilder.finish_eq (builder : ZoneBuilder paths.length) :
    builder.finish = builder.zones ++ (builder.currentLinear.map RouteZone.linear).toList ++
      (builder.currentMap.map RouteZone.exactMap).toList := rfl

theorem ZoneBuilder.finish_flushLinear (builder : ZoneBuilder paths.length) :
    builder.flushLinear.finish = builder.finish := by
  simp [ZoneBuilder.finish_eq, ZoneBuilder.flushLinear]

theorem ZoneBuilder.finish_flushMap (exclusive : builder.currentLinear = none ∨
      builder.currentMap = none) : builder.flushMap.finish = builder.finish := by
  rcases exclusive with unfilled | unfilled <;>
    simp [ZoneBuilder.finish_eq, ZoneBuilder.flushMap, unfilled]

theorem faithful_flushed {zones : List (RouteZone paths.length)} {α : Type} {filling : Option α}
    {zoneOf : α → RouteZone paths.length} (flushed : ∀ zone ∈ zones, zone.Faithful paths)
    (filled : ∀ value, filling = some value → (zoneOf value).Faithful paths) :
    ∀ zone ∈ zones ++ (filling.map zoneOf).toList, zone.Faithful paths := by
  intro zone member
  rcases List.mem_append.mp member with earlier | new
  · exact flushed zone earlier
  · cases filling with
    | none => cases new
    | some value =>
      rw [List.mem_singleton.mp new]
      exact filled value rfl

theorem ZoneBuilder.Valid.flushLinear (valid : builder.Valid paths) :
    builder.flushLinear.Valid paths := by
  exact ⟨.inl rfl, faithful_flushed valid.zones valid.linear, by simp [ZoneBuilder.flushLinear],
    valid.map⟩

theorem ZoneBuilder.Valid.flushMap (valid : builder.Valid paths) :
    builder.flushMap.Valid paths := by
  exact ⟨.inr rfl, faithful_flushed valid.zones valid.map, valid.linear,
    by simp [ZoneBuilder.flushMap]⟩

theorem firstRoute_append (cache : RegexCache) (request : Request)
    (seen : List (Fin paths.length)) (index : Fin paths.length) :
    firstRoute cache request paths (seen ++ [index]) =
      (firstRoute cache request paths seen).or
        (firstRoute cache request paths [index]) :=
  List.find?_append

theorem ZoneBuilder.pushLinear_represents (compiled : CompiledRoute paths.length)
    (unfilled : builder.currentMap = none) (cache : RegexCache) (request : Request) :
    firstInZones cache request paths (builder.pushLinear compiled).finish =
      (firstInZones cache request paths builder.finish).or
        (firstRoute cache request paths [compiled.index]) := by
  unfold firstInZones firstRoute
  simp only [ZoneBuilder.finish_eq, ZoneBuilder.pushLinear, unfilled, Option.map_none,
    Option.toList_none, List.append_nil, Option.map_some, Option.toList_some,
    List.findSome?_append, List.findSome?_singleton]
  cases builder.currentLinear with
  | none =>
    simp only [RouteZone.first, Option.map_none, Option.toList_none, List.findSome?_nil,
      Option.or_none, List.map_cons, List.map_nil]
  | some =>
    simp only [RouteZone.first, Option.map_some, Option.toList_some, List.findSome?_singleton,
      List.map_append, List.map_cons, List.map_nil, List.find?_append, Option.or_assoc]

variable {index : Fin paths.length} {path : Text} {seen : List (Fin paths.length)}

private theorem firstRoute_exact (matcherAt : (paths.get index).matcher =
      { path := .exact path, method := .any, headers := .none }) (cache : RegexCache)
    (request : Request) :
    firstRoute cache request paths [index] =
      if request.uriPath = path then some index else none := by
  unfold firstRoute
  rw [List.find?_singleton, matcherAt]
  simp [RouteMatcher.holds, PathMatch.holds, matchesMethod, HeaderPredicates.holds]

theorem ZoneBuilder.pushExact_represents (regex : Option Regex)
    (unfilled : builder.currentLinear = none) (matcherAt : (paths.get index).matcher =
      { path := .exact path, method := .any, headers := .none }) (cache : RegexCache)
    (request : Request) :
    firstInZones cache request paths
        (builder.pushExact path { index := index, regex := regex }).finish =
      (firstInZones cache request paths builder.finish).or
        (firstRoute cache request paths [index]) := by
  rw [firstRoute_exact matcherAt]
  unfold firstInZones
  simp only [ZoneBuilder.finish_eq, ZoneBuilder.pushExact, unfilled, Option.map_none,
    Option.toList_none, List.append_nil, Option.map_some, Option.toList_some,
    List.findSome?_append, List.findSome?_singleton]
  cases builder.currentMap with
  | none =>
    simp only [RouteZone.first, Option.map_none, Option.toList_none, List.findSome?_nil,
      Option.or_none]
    by_cases same : request.uriPath = path
    · subst same
      rw [AList.lookup_insert, if_pos rfl]
      rfl
    · rw [AList.lookup_insert_ne same, if_neg same]
      rfl
  | some =>
    simp only [RouteZone.first, Option.map_some, Option.toList_some, List.findSome?_singleton,
      lookup_orInsert, Option.or_assoc]
    by_cases same : request.uriPath = path
    · rw [if_pos same, if_pos same, Option.map_or]
      rfl
    · rw [if_neg same, if_neg same, Option.or_none, Option.or_none]

theorem ZoneBuilder.Valid.pushExact (valid : builder.Valid paths) (regex : Option Regex)
    (unfilled : builder.currentLinear = none) (matcherAt : (paths.get index).matcher =
      { path := .exact path, method := .any, headers := .none }) :
    (builder.pushExact path { index := index, regex := regex }).Valid paths := by
  refine ⟨.inl unfilled, valid.zones, valid.linear, ?_⟩
  intro filled isFilled wanted found lookedUp
  cases isFilled
  have ofNew (value : CompiledRoute paths.length)
      (isNew : (if wanted = path then
        some ({ index := index, regex := regex } : CompiledRoute paths.length) else none) =
        some value) :
      (paths.get value.index).matcher =
        { path := .exact wanted, method := .any, headers := .none } := by
    by_cases same : wanted = path
    · rw [if_pos same] at isNew
      cases isNew
      rw [same]
      exact matcherAt
    · rw [if_neg same] at isNew
      cases isNew
  cases filling : builder.currentMap with
  | none =>
    rw [filling] at lookedUp
    apply ofNew found
    by_cases same : wanted = path
    · subst same
      rw [if_pos rfl, ← lookedUp, AList.lookup_insert]
    · rw [AList.lookup_insert_ne same] at lookedUp
      cases lookedUp
  | some map =>
    rw [filling] at lookedUp
    simp only [lookup_orInsert] at lookedUp
    rcases Option.or_eq_some_iff.mp lookedUp with earlier | ⟨_, isNew⟩
    · exact valid.map map filling wanted found earlier
    · exact ofNew found isNew

theorem ZoneBuilder.Valid.pushLinear (valid : builder.Valid paths)
    {compiled : CompiledRoute paths.length} (unfilled : builder.currentMap = none)
    (faithful : compiled.Faithful paths) : (builder.pushLinear compiled).Valid paths := by
  refine ⟨.inr unfilled, valid.zones, ?_, valid.map⟩
  intro filled isFilled route member
  cases isFilled
  cases filling : builder.currentLinear with
  | none =>
    rw [filling] at member
    rw [List.mem_singleton.mp member]
    exact faithful
  | some linear =>
    rw [filling] at member
    rcases List.mem_append.mp member with earlier | newest
    · exact valid.linear linear filling route earlier
    · rw [List.mem_singleton.mp newest]
      exact faithful

theorem RouteMatcher.of_no_predicates {matcher : RouteMatcher} (pathAt : matcher.path = .exact path)
    (plain : matcher.hasPredicates = false) :
    matcher = { path := .exact path, method := .any, headers := .none } := by
  obtain ⟨pathMatch, method, headers⟩ := matcher
  simp only [RouteMatcher.hasPredicates, Bool.or_eq_false_iff, bne_eq_false_iff_eq] at plain
  simp only at pathAt
  rw [pathAt, plain.1, plain.2]

private theorem addRoute_linear (valid : builder.Valid paths)
    (represents : builder.Represents paths seen) {regex : Option Regex}
    (faithful : CompiledRoute.Faithful paths { index := index, regex := regex }) :
    (builder.flushMap.pushLinear { index := index, regex := regex }).Valid paths ∧
      (builder.flushMap.pushLinear { index := index, regex := regex }).Represents paths
        (seen ++ [index]) := by
  refine ⟨valid.flushMap.pushLinear rfl faithful, ?_⟩
  intro cache request
  rw [ZoneBuilder.pushLinear_represents _ rfl, ZoneBuilder.finish_flushMap valid.exclusive,
    represents cache request, firstRoute_append]

private theorem addRoute_represents (engine : RegexEngine) (valid : builder.Valid paths)
    (represents : builder.Represents paths seen) (index : Fin paths.length)
    (compiles : ∀ pattern, (paths.get index).matcher.path = .regex pattern →
      engine.compiles pattern = true) :
    ∃ after, addRoute engine paths builder index = .ok after ∧ after.Valid paths ∧
      after.Represents paths (seen ++ [index]) := by
  unfold addRoute
  cases pathAt : (paths.get index).matcher.path with
  | prefixed =>
    simp only [pathAt]
    refine ⟨_, rfl, addRoute_linear valid represents ?_⟩
    unfold CompiledRoute.Faithful
    simp only [pathAt]
  | regex pattern =>
    refine ⟨builder.flushMap.pushLinear
      { index := index, regex := some { pattern := pattern } }, ?_,
      addRoute_linear valid represents ?_⟩
    · simp only [pathAt, Regex.new, compiles pattern pathAt, if_true]
    · unfold CompiledRoute.Faithful
      simp only [pathAt]
  | exact =>
    cases predicates : (paths.get index).matcher.hasPredicates with
    | true =>
      simp only [pathAt, predicates]
      refine ⟨_, rfl, addRoute_linear valid represents ?_⟩
      unfold CompiledRoute.Faithful
      simp only [pathAt]
    | false =>
      have matcherAt := RouteMatcher.of_no_predicates pathAt predicates
      simp only [pathAt, predicates]
      refine ⟨_, rfl, valid.flushLinear.pushExact none rfl matcherAt, ?_⟩
      intro cache request
      rw [ZoneBuilder.pushExact_represents none rfl matcherAt,
        ZoneBuilder.finish_flushLinear, represents cache request, firstRoute_append]

private theorem addRoutes_represents (engine : RegexEngine) (remaining : List (Fin paths.length))
    (valid : builder.Valid paths) (represents : builder.Represents paths seen)
    (compiles : ∀ index pattern, (paths.get index).matcher.path = .regex pattern →
      engine.compiles pattern = true) :
    ∃ after, remaining.foldlM (addRoute engine paths) builder = .ok after ∧ after.Valid paths ∧
      after.Represents paths (seen ++ remaining) := by
  induction remaining generalizing builder seen with
  | nil => exact ⟨builder, rfl, valid, by simpa using represents⟩
  | cons index rest ih =>
    obtain ⟨next, added, nextValid, nextRepresents⟩ :=
      addRoute_represents engine valid represents index (compiles index)
    obtain ⟨after, runs, afterValid, afterRepresents⟩ := ih nextValid nextRepresents
    refine ⟨after, ?_, afterValid, by simpa using afterRepresents⟩
    rw [List.foldlM_cons, added]
    exact runs

end

/-- The zones of a compiled host stand for its routes in order. -/
structure CompiledVirtualHost.Faithful (compiled : CompiledVirtualHost ρ) : Prop where
  zones : ∀ zone ∈ compiled.zones, zone.Faithful compiled.config.paths
  first : ∀ cache request, firstInZones cache request compiled.config.paths compiled.zones =
    firstRoute cache request compiled.config.paths (List.finRange compiled.config.paths.length)

theorem ZoneBuilder.Valid.finish {paths : List (Route ρ)} {builder : ZoneBuilder paths.length}
    (valid : builder.Valid paths) : ∀ zone ∈ builder.finish, zone.Faithful paths :=
  valid.flushLinear.flushMap.zones

def VirtualHost.Compiles (engine : RegexEngine) (vhost : VirtualHost ρ) : Prop :=
  ∀ route ∈ vhost.paths, ∀ pattern, route.matcher.path = .regex pattern →
    engine.compiles pattern = true

theorem compileVirtualHost_faithful {engine : RegexEngine} {vhost : VirtualHost ρ}
    (compiles : vhost.Compiles engine) :
    ∃ compiled, compileVirtualHost engine vhost = .ok compiled ∧ compiled.config = vhost ∧
      compiled.Faithful := by
  have nothing : (ZoneBuilder.empty : ZoneBuilder vhost.paths.length).Valid vhost.paths :=
    ⟨.inl rfl, by simp [ZoneBuilder.empty], by simp [ZoneBuilder.empty],
      by simp [ZoneBuilder.empty]⟩
  obtain ⟨builder, runs, valid, represents⟩ := addRoutes_represents engine
    (List.finRange vhost.paths.length) nothing
    (show ZoneBuilder.Represents vhost.paths ZoneBuilder.empty [] from fun _ _ => rfl)
    (fun index => compiles _ (List.get_mem vhost.paths index))
  unfold compileVirtualHost
  rw [runs]
  exact ⟨_, rfl, rfl, valid.finish, represents⟩

theorem Router.withRegex_succeeds {routes : List (VirtualHost ρ)} {cache : RegexCache}
    (compiles : ∀ vhost ∈ routes, vhost.Compiles cache.engine) :
    ∃ router, Router.withRegex routes cache = .ok router := by
  apply foldlM_succeeds_keeping (fun router : Router ρ => router.cache = cache) _ rfl
  intro before same vhost member
  obtain ⟨compiled, ran, _, _⟩ := compileVirtualHost_faithful (compiles vhost member)
  refine ⟨before.insert compiled, ?_, ?_⟩
  · unfold Router.addHost
    rw [same, ran]
  · unfold Router.insert
    split <;> exact same

end Pavis.Routing
