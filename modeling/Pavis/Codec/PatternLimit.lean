/-
The limit on the length of a header pattern.

The limit is an option of the features, and the routes are converted before the features.
Both forms of a header predicate check a pattern against a constant.
-/

import Pavis.Codec.Convert

namespace Pavis.Codec

open ByteText Fallible
open Routing (RegexEngine wordEngine)

/-- The pattern of a predicate with flags that ask for one. -/
def HeaderPredicateLegacy.pattern (predicate : HeaderPredicateLegacy) : Option Text :=
  match predicate.absent, predicate.value, predicate.regex, predicate.prefixed with
  | false, some pattern, true, false => some pattern
  | _, _, _, _ => none

def HeaderPredicate.pattern : HeaderPredicate → Option Text
  | .v1 legacy => legacy.pattern
  | .v2 (.regex _ pattern) => some pattern
  | .v2 _ => none

/-- A test for the presence of the header in place of the pattern. -/
def HeaderPredicate.relaxed : HeaderPredicate → HeaderPredicate
  | .v1 legacy =>
    match legacy.pattern with
    | some _ => .v1 { legacy with value := none, regex := false }
    | none => .v1 legacy
  | .v2 (.regex name _) => .v2 (.present name)
  | .v2 matcher => .v2 matcher

def Matcher.patterns (matcher : Matcher) : List Text :=
  (matcher.headers.getD []).filterMap HeaderPredicate.pattern

def Matcher.relaxed (matcher : Matcher) : Matcher :=
  { matcher with headers := matcher.headers.map (List.map HeaderPredicate.relaxed) }

def Route.patterns (route : Route) : List Text := route.matcherConfig.patterns

def Route.relaxed (route : Route) : Route :=
  { route with matcher := route.matcher.map Matcher.relaxed }

def VirtualHost.relaxed (vhost : VirtualHost) : VirtualHost :=
  { vhost with paths := vhost.paths.map Route.relaxed }

def SerdeConfig.patterns (document : SerdeConfig) : List Text :=
  (document.routes.getD []).flatMap fun vhost => vhost.paths.flatMap Route.patterns

def SerdeConfig.relaxed (document : SerdeConfig) : SerdeConfig :=
  { document with routes := document.routes.map (List.map VirtualHost.relaxed) }

def SerdeConfig.patternMaxBytes (document : SerdeConfig) : Nat :=
  (featuresToRuntime (document.features.getD {})).regexLimits.patternMaxBytes

section

variable {engine : RegexEngine} {vhostIndex pathIndex headerIndex : Nat}

theorem validateHeaderPattern_succeeds_iff {name pattern headerPath : Text} :
    (∃ result, validateHeaderPattern engine name pattern headerPath = .ok result) ↔
      pattern.length ≤ 256 ∧ engine.compiles pattern = true := by
  constructor
  · rintro ⟨result, ran⟩
    exact (validateHeaderPattern_eq_ok.mp ran).1
  · intro checked
    exact ⟨_, validateHeaderPattern_eq_ok.mpr ⟨checked, rfl⟩⟩

theorem HeaderPredicateLegacy.eq_of_pattern {legacy : HeaderPredicateLegacy} {pattern : Text}
    (found : legacy.pattern = some pattern) :
    ∃ name, legacy = ⟨name, some pattern, true, false, false⟩ := by
  obtain ⟨name, value, regex, prefixed, absent⟩ := legacy
  unfold HeaderPredicateLegacy.pattern at found
  split at found
  · rename_i isAbsent isValue isRegex isPrefixed
    dsimp only at isAbsent isValue isRegex isPrefixed
    subst isAbsent isValue isRegex isPrefixed
    exact ⟨name, by rw [Option.some.inj found]⟩
  · cases found

private theorem headerPredicate_succeeds_iff (predicate : HeaderPredicate) :
    (∃ result, headerPredicateToRuntime engine vhostIndex pathIndex headerIndex predicate =
        .ok result) ↔
      (∃ result, headerPredicateToRuntime engine vhostIndex pathIndex headerIndex
        predicate.relaxed = .ok result) ∧
      ∀ pattern ∈ predicate.pattern, pattern.length ≤ 256 ∧ engine.compiles pattern = true := by
  cases predicate with
  | v2 matcher =>
    cases matcher with
    | regex name pattern =>
      refine bind_succeeds_head ?_ fun _ _ found => ?_
      · rw [headerMatcherToRuntime, validateHeaderPattern_succeeds_iff]
        simp [headerMatcherToRuntime, HeaderPredicate.pattern]
      · obtain ⟨named, ran, _⟩ := bind_succeeds_iff.mp found
        exact bind_succeeds_iff.mpr ⟨named, ran, _, rfl⟩
    | exact _ _ | prefixed _ _ | present _ | absent _ =>
      simp [HeaderPredicate.relaxed, HeaderPredicate.pattern]
  | v1 legacy =>
    cases found : legacy.pattern with
    | none => simp [HeaderPredicate.relaxed, HeaderPredicate.pattern, found]
    | some pattern =>
      obtain ⟨name, rfl⟩ := HeaderPredicateLegacy.eq_of_pattern found
      refine bind_succeeds_congr fun _ => bind_succeeds_head ?_ fun _ _ _ => ⟨_, rfl⟩
      simp [legacyMatcherToRuntime, validateHeaderPattern_succeeds_iff,
        HeaderPredicate.pattern, HeaderPredicateLegacy.pattern]

def PatternsPass (engine : RegexEngine) (patterns : List Text) : Prop :=
  ∀ pattern ∈ patterns, pattern.length ≤ 256 ∧ engine.compiles pattern = true

theorem loop_succeeds_iff {α β : Type} (step : α → Nat → Result β) (relax : α → α)
    (patterns : α → List Text)
    (each : ∀ item position, (∃ result, step item position = .ok result) ↔
      (∃ result, step (relax item) position = .ok result) ∧ PatternsPass engine (patterns item))
    (items : List α) :
    (∃ results, (items.zipIdx.mapM fun entry => step entry.1 entry.2) = .ok results) ↔
      (∃ results, ((items.map relax).zipIdx.mapM fun entry => step entry.1 entry.2) =
        .ok results) ∧
      PatternsPass engine (items.flatMap patterns) := by
  rw [mapM_zipIdx_succeeds_iff, mapM_zipIdx_succeeds_iff]
  constructor
  · intro all
    constructor
    · intro position relaxed found
      rw [List.getElem?_map] at found
      obtain ⟨item, foundItem, rfl⟩ := Option.map_eq_some_iff.mp found
      exact ((each item position).mp (all position item foundItem)).1
    · intro pattern member
      obtain ⟨item, listed, own⟩ := List.mem_flatMap.mp member
      obtain ⟨position, found⟩ := List.getElem?_of_mem listed
      exact ((each item position).mp (all position item found)).2 pattern own
  · rintro ⟨all, pass⟩ position item found
    refine (each item position).mpr ⟨?_, ?_⟩
    · exact all position (relax item) (by rw [List.getElem?_map, found, Option.map_some])
    · intro pattern own
      exact pass pattern (List.mem_flatMap.mpr ⟨item, List.mem_of_getElem? found, own⟩)

theorem headerPredicates_succeed_iff (headers : Option (List HeaderPredicate)) :
    (∃ result, headerPredicatesToRuntime engine headers vhostIndex pathIndex = .ok result) ↔
      (∃ result, headerPredicatesToRuntime engine (headers.map (List.map HeaderPredicate.relaxed))
        vhostIndex pathIndex = .ok result) ∧
      PatternsPass engine ((headers.getD []).filterMap HeaderPredicate.pattern) := by
  cases headers with
  | none => simp [headerPredicatesToRuntime, PatternsPass]
  | some predicates =>
    have each : ∀ (predicate : HeaderPredicate) (position : Nat),
        (∃ result, headerPredicateToRuntime engine vhostIndex pathIndex position predicate =
          .ok result) ↔
        (∃ result, headerPredicateToRuntime engine vhostIndex pathIndex position
          predicate.relaxed = .ok result) ∧
        PatternsPass engine predicate.pattern.toList := by
      intro predicate position
      rw [headerPredicate_succeeds_iff]
      simp only [PatternsPass, Option.mem_toList, Option.mem_def]
    rw [Option.getD_some, List.filterMap_eq_flatMap_toList]
    cases predicates with
    | nil => simp [headerPredicatesToRuntime, PatternsPass]
    | cons first rest =>
      exact bind_succeeds_head (loop_succeeds_iff
        (fun predicate position =>
          headerPredicateToRuntime engine vhostIndex pathIndex position predicate)
        HeaderPredicate.relaxed (fun predicate => predicate.pattern.toList) each
        (first :: rest)) fun _ _ _ => ⟨_, rfl⟩

private theorem matcher_succeeds_iff (matcher : Matcher) :
    (∃ result, matcherToRuntime engine matcher vhostIndex pathIndex = .ok result) ↔
      (∃ result, matcherToRuntime engine matcher.relaxed vhostIndex pathIndex = .ok result) ∧
      PatternsPass engine matcher.patterns := by
  exact bind_succeeds_congr fun _ =>
    bind_succeeds_head (headerPredicates_succeed_iff matcher.headers) fun _ _ _ => ⟨_, rfl⟩

private theorem matcherConfig_relaxed (route : Route) :
    route.relaxed.matcherConfig = route.matcherConfig.relaxed := by
  unfold Route.matcherConfig Route.relaxed
  cases route.matcher with
  | none | some => rfl

private theorem route_succeeds_iff (route : Route) :
    (∃ result, routeToRuntime engine vhostIndex route pathIndex = .ok result) ↔
      (∃ result, routeToRuntime engine vhostIndex route.relaxed pathIndex = .ok result) ∧
      PatternsPass engine route.patterns := by
  refine bind_succeeds_congr fun _ => bind_succeeds_congr fun _ => bind_succeeds_congr fun _ => ?_
  rw [matcherConfig_relaxed]
  refine bind_succeeds_head (matcher_succeeds_iff route.matcherConfig) fun _ _ found => ?_
  obtain ⟨principal, ran, _⟩ := bind_succeeds_iff.mp found
  exact bind_succeeds_iff.mpr ⟨principal, ran, _, rfl⟩

private theorem virtualHost_succeeds_iff (vhost : VirtualHost) :
    (∃ result, virtualHostToRuntime engine vhost vhostIndex = .ok result) ↔
      (∃ result, virtualHostToRuntime engine vhost.relaxed vhostIndex = .ok result) ∧
      PatternsPass engine (vhost.paths.flatMap Route.patterns) := by
  exact bind_succeeds_head (loop_succeeds_iff (routeToRuntime engine vhostIndex) Route.relaxed
    Route.patterns (fun route _ => route_succeeds_iff route) vhost.paths) fun _ _ _ => ⟨_, rfl⟩

private theorem routes_succeed_iff (routes : List VirtualHost) :
    (∃ results, routesToRuntime engine routes = .ok results) ↔
      (∃ results, routesToRuntime engine (routes.map VirtualHost.relaxed) = .ok results) ∧
      PatternsPass engine
        (routes.flatMap fun vhost => vhost.paths.flatMap Route.patterns) :=
  loop_succeeds_iff (virtualHostToRuntime engine) VirtualHost.relaxed
    (fun vhost => vhost.paths.flatMap Route.patterns)
    (fun vhost _ => virtualHost_succeeds_iff vhost) routes

end

section

variable {engine : RegexEngine} {document : SerdeConfig}

private theorem structural_relaxed_routes (document : SerdeConfig) :
    (structural document.relaxed).routes =
      (structural document).routes.map VirtualHost.relaxed := by
  unfold structural SerdeConfig.relaxed
  cases document.routes with
  | none | some => rfl

private theorem document_succeeds_iff (document : SerdeConfig) :
    (∃ config, (structural document).tryIntoRuntime engine = .ok config) ↔
      (∃ config, (structural document.relaxed).tryIntoRuntime engine = .ok config) ∧
      PatternsPass engine document.patterns := by
  refine bind_succeeds_congr fun _ => bind_succeeds_congr fun _ => bind_succeeds_congr fun _ => ?_
  rw [structural_relaxed_routes]
  refine bind_succeeds_head (routes_succeed_iff (structural document).routes) fun _ _ found => ?_
  simp only [bind_succeeds_iff] at found ⊢
  obtain ⟨shutdown, ranShutdown, admin, ranAdmin, listening, ranListening, _⟩ := found
  exact ⟨shutdown, ranShutdown, admin, ranAdmin, listening, ranListening, _, rfl⟩

/-- A document converts if every pattern keeps to the configured limit, and only then. -/
def LimitEnforced (engine : RegexEngine) (document : SerdeConfig) : Prop :=
  (∃ config, (structural document).tryIntoRuntime engine = .ok config) ↔
    ∀ pattern ∈ document.patterns, pattern.length ≤ document.patternMaxBytes

/-- Of a document that converts without its patterns, all of which compile, the configured
limit is enforced if no pattern tells it from the constant or one exceeds both. -/
theorem pattern_limit_enforced_iff
    (compile : ∀ pattern ∈ document.patterns, engine.compiles pattern = true)
    (otherwise :
      ∃ config, (structural document.relaxed).tryIntoRuntime engine = .ok config) :
    LimitEnforced engine document ↔
      (∀ pattern ∈ document.patterns, pattern.length ≤ 256 ∧
        pattern.length ≤ document.patternMaxBytes) ∨
      ∃ pattern ∈ document.patterns, 256 < pattern.length ∧
        document.patternMaxBytes < pattern.length := by
  have enforced : (∃ config, (structural document).tryIntoRuntime engine = .ok config) ↔
      ∀ pattern ∈ document.patterns, pattern.length ≤ 256 := by
    rw [document_succeeds_iff]
    constructor
    · intro ⟨_, pass⟩ pattern member
      exact (pass pattern member).1
    · intro short
      exact ⟨otherwise, fun pattern member => ⟨short pattern member, compile pattern member⟩⟩
  unfold LimitEnforced
  rw [enforced]
  constructor
  · intro agree
    by_cases short : ∀ pattern ∈ document.patterns, pattern.length ≤ 256
    · exact .inl fun pattern member => ⟨short pattern member, agree.mp short pattern member⟩
    · have above : ¬∀ pattern ∈ document.patterns, pattern.length ≤ document.patternMaxBytes :=
        fun within => short (agree.mpr within)
      -- The longer of two patterns, each above one of the limits, is above both.
      push Not at short above
      obtain ⟨first, firstListed, firstLong⟩ := short
      obtain ⟨second, secondListed, secondLong⟩ := above
      rcases Nat.le_total first.length second.length with shorter | longer
      · exact .inr ⟨second, secondListed, by omega, secondLong⟩
      · exact .inr ⟨first, firstListed, firstLong, by omega⟩
  · rintro (within | ⟨pattern, listed, long, above⟩)
    · exact ⟨fun _ pattern member => (within pattern member).2,
        fun _ pattern member => (within pattern member).1⟩
    · exact ⟨fun short => absurd (short pattern listed) (by omega),
        fun short => absurd (short pattern listed) (by omega)⟩

end

def limitedDocument (limit : Option Nat) : SerdeConfig :=
  { documentOf plainUpstream [matchingRoute] with
    features := some { routing := { regexLimits := { patternMaxBytes := limit } } } }

/-- Without a limit the constant is the default. -/
theorem unset_limit_enforced : LimitEnforced wordEngine (limitedDocument none) := by
  refine (pattern_limit_enforced_iff (by decide +kernel) ?_).mpr (.inl (by decide +kernel))
  exact exists_of_isOk (show ((structural (limitedDocument none).relaxed).tryIntoRuntime
    wordEngine).isOk = true by decide +kernel)

/-- The pattern has four bytes, which a limit of three does not keep from converting. -/
theorem lower_limit_ignored :
    (∀ pattern ∈ (limitedDocument (some 3)).patterns, wordEngine.compiles pattern = true) ∧
    (∃ config, (structural (limitedDocument (some 3)).relaxed).tryIntoRuntime wordEngine =
      .ok config) ∧
    ¬LimitEnforced wordEngine (limitedDocument (some 3)) := by
  refine ⟨by decide +kernel, ?_, ?_⟩
  · exact exists_of_isOk (show ((structural (limitedDocument (some 3)).relaxed).tryIntoRuntime
      wordEngine).isOk = true by decide +kernel)
  · intro enforced
    have within := enforced.mp (exists_of_isOk
      (show ((structural (limitedDocument (some 3))).tryIntoRuntime wordEngine).isOk = true by
        decide +kernel))
    exact absurd within (by decide +kernel)

end Pavis.Codec
