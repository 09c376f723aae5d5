/-
Route matchers and their evaluation.

Evaluating the headers counts what was evaluated. Regular expressions are a fixed
relation between patterns and inputs. Of a route the router reads the matcher only;
the rest of it is the type parameter.
-/

import Mathlib.Data.List.Infix
import Pavis.Library.ByteText
import Pavis.Library.FirstMatch

namespace Pavis.Routing

open ByteText FirstMatch

inductive PathMatch where
  | prefixed (path : Text)
  | exact (path : Text)
  | regex (path : Text)
  deriving DecidableEq

inductive HttpMethod where
  | get
  | post
  | put
  | delete
  | patch
  | head
  | options
  | connect
  | trace
  deriving DecidableEq

def HttpMethod.asStr : HttpMethod → Text
  | .get => literal "GET"
  | .post => literal "POST"
  | .put => literal "PUT"
  | .delete => literal "DELETE"
  | .patch => literal "PATCH"
  | .head => literal "HEAD"
  | .options => literal "OPTIONS"
  | .connect => literal "CONNECT"
  | .trace => literal "TRACE"

inductive MethodPredicate where
  | any
  | specific (method : HttpMethod)
  | list (methods : List HttpMethod)
  deriving DecidableEq

inductive HeaderMatch where
  | present
  | exact (expected : Text)
  | prefixed (expected : Text)
  | regex (pattern : Text)
  | absent
  deriving DecidableEq

structure HeaderPredicate where
  name : Text
  matcher : HeaderMatch
  deriving DecidableEq

inductive HeaderPredicates where
  | none
  | some (predicates : List HeaderPredicate)
  deriving DecidableEq

structure RouteMatcher where
  path : PathMatch
  method : MethodPredicate
  headers : HeaderPredicates
  deriving DecidableEq

structure Route (ρ : Type) where
  matcher : RouteMatcher
  policy : ρ
  deriving DecidableEq

structure VirtualHost (ρ : Type) where
  host : Text
  paths : List (Route ρ)
  deriving DecidableEq

/-- The regular expression library: which patterns compile and what they
match, as text and as bytes. -/
structure RegexEngine where
  compiles : Text → Bool
  isMatch : Text → Text → Bool
  isMatchBytes : Text → Bytes → Bool

structure Regex where
  pattern : Text
  deriving DecidableEq

structure CompiledRegex where
  pattern : Text
  compiled : Regex
  deriving DecidableEq

structure RegexLimits where
  inputMaxBytes : Nat
  deriving DecidableEq

def CompiledRegex.isMatch (engine : RegexEngine) (compiled : CompiledRegex) (input : Bytes)
    (maxLen : Nat) : Bool :=
  if input.length > maxLen then false else engine.isMatchBytes compiled.compiled.pattern input

/-- What the evaluation of header predicates reads beside the request. -/
structure RegexCache where
  engine : RegexEngine
  cached : Text → Option CompiledRegex
  limits : RegexLimits

structure Request where
  hostHeader : Option Text
  uriPath : Text
  method : Text
  headers : List (Text × Bytes)
  deriving DecidableEq

def Request.header (request : Request) (name : Text) : Option Bytes :=
  (request.headers.find? fun header => eqIgnoreAsciiCase header.1 name).map Prod.snd

structure PredicateStats where
  pathMisses : Nat
  methodMisses : Nat
  headerMisses : Nat
  exactEvals : Nat
  prefixEvals : Nat
  regexEvals : Nat
  presentEvals : Nat
  absentEvals : Nat
  regexInputTooLarge : Nat
  deriving DecidableEq

namespace PredicateStats

def zero : PredicateStats :=
  { pathMisses := 0, methodMisses := 0, headerMisses := 0, exactEvals := 0, prefixEvals := 0
    regexEvals := 0, presentEvals := 0, absentEvals := 0, regexInputTooLarge := 0 }

def recordPathMiss (stats : PredicateStats) : PredicateStats :=
  { stats with pathMisses := stats.pathMisses + 1 }

def recordMethodMiss (stats : PredicateStats) : PredicateStats :=
  { stats with methodMisses := stats.methodMisses + 1 }

def recordHeaderMiss (stats : PredicateStats) : PredicateStats :=
  { stats with headerMisses := stats.headerMisses + 1 }

def recordEvalExact (stats : PredicateStats) : PredicateStats :=
  { stats with exactEvals := stats.exactEvals + 1 }

def recordEvalPrefix (stats : PredicateStats) : PredicateStats :=
  { stats with prefixEvals := stats.prefixEvals + 1 }

def recordEvalRegex (stats : PredicateStats) : PredicateStats :=
  { stats with regexEvals := stats.regexEvals + 1 }

def recordEvalPresent (stats : PredicateStats) : PredicateStats :=
  { stats with presentEvals := stats.presentEvals + 1 }

def recordEvalAbsent (stats : PredicateStats) : PredicateStats :=
  { stats with absentEvals := stats.absentEvals + 1 }

def recordRegexInputTooLarge (stats : PredicateStats) : PredicateStats :=
  { stats with regexInputTooLarge := stats.regexInputTooLarge + 1 }

def addAssign (stats other : PredicateStats) : PredicateStats :=
  { pathMisses := stats.pathMisses + other.pathMisses
    methodMisses := stats.methodMisses + other.methodMisses
    headerMisses := stats.headerMisses + other.headerMisses
    exactEvals := stats.exactEvals + other.exactEvals
    prefixEvals := stats.prefixEvals + other.prefixEvals
    regexEvals := stats.regexEvals + other.regexEvals
    presentEvals := stats.presentEvals + other.presentEvals
    absentEvals := stats.absentEvals + other.absentEvals
    regexInputTooLarge := stats.regexInputTooLarge + other.regexInputTooLarge }

end PredicateStats

def matchesMethod (predicate : MethodPredicate) (method : Text) : Bool :=
  match predicate with
  | .any => true
  | .specific expected => eqIgnoreAsciiCase method expected.asStr
  | .list methods => methods.any fun expected => eqIgnoreAsciiCase method expected.asStr

def matchesHeaderPredicate (cache : RegexCache) (request : Request) (predicate : HeaderPredicate)
    (stats : PredicateStats) : Bool × PredicateStats :=
  match predicate.matcher, request.header predicate.name with
  | .present, some _ => (true, stats.recordEvalPresent)
  | .present, none => (false, stats.recordEvalPresent)
  | .absent, none => (true, stats.recordEvalAbsent)
  | .absent, some _ => (false, stats.recordEvalAbsent)
  | .exact expected, some actual => (actual == expected, stats.recordEvalExact)
  | .exact _, none => (false, stats.recordEvalExact)
  | .prefixed expected, some actual => (startsWith actual expected, stats.recordEvalPrefix)
  | .prefixed _, none => (false, stats.recordEvalPrefix)
  | .regex pattern, some actual =>
    let stats := stats.recordEvalRegex
    match cache.cached pattern with
    | some compiled =>
      if actual.length > cache.limits.inputMaxBytes then
        (false, stats.recordRegexInputTooLarge)
      else (compiled.isMatch cache.engine actual cache.limits.inputMaxBytes, stats)
    | none => (false, stats)
  | .regex _, none => (false, stats.recordEvalRegex)

def matchesHeaders (cache : RegexCache) (request : Request) (predicates : HeaderPredicates)
    (stats : PredicateStats) : Bool × PredicateStats :=
  match predicates with
  | .none => (true, stats)
  | .some predicates => allOf (matchesHeaderPredicate cache request) predicates stats

/-- A pattern without a cached expression matches nothing, and so does a value
over the limit. -/
def HeaderMatch.holds (cache : RegexCache) (matcher : HeaderMatch) (value : Option Bytes) : Bool :=
  match matcher with
  | .present => value.isSome
  | .absent => value.isNone
  | .exact expected => value == some expected
  | .prefixed expected => value.any fun actual => startsWith actual expected
  | .regex pattern =>
    value.any fun actual =>
      (cache.cached pattern).any fun compiled =>
        decide (actual.length ≤ cache.limits.inputMaxBytes) &&
          cache.engine.isMatchBytes compiled.compiled.pattern actual

def HeaderPredicates.holds (cache : RegexCache) (request : Request) : HeaderPredicates → Bool
  | .none => true
  | .some predicates =>
    predicates.all fun predicate => predicate.matcher.holds cache (request.header predicate.name)

def PathMatch.holds (engine : RegexEngine) (uriPath : Text) : PathMatch → Bool
  | .prefixed path => startsWith uriPath path
  | .exact path => uriPath == path
  | .regex path => engine.isMatch path uriPath

def RouteMatcher.holds (cache : RegexCache) (request : Request) (matcher : RouteMatcher) : Bool :=
  matcher.path.holds cache.engine request.uriPath &&
    (matchesMethod matcher.method request.method && matcher.headers.holds cache request)

private theorem matchesHeaderPredicate_fst (cache : RegexCache) (request : Request)
    (predicate : HeaderPredicate) (stats : PredicateStats) :
    (matchesHeaderPredicate cache request predicate stats).1 =
      predicate.matcher.holds cache (request.header predicate.name) := by
  unfold matchesHeaderPredicate
  cases request.header predicate.name with
  | none => cases predicate.matcher <;> rfl
  | some actual =>
    cases predicate.matcher with
    | present | absent | exact | prefixed => rfl
    | regex pattern =>
      cases found : cache.cached pattern with
      | none => simp [HeaderMatch.holds, found]
      | some =>
        by_cases tooLarge : actual.length > cache.limits.inputMaxBytes
        · simp [HeaderMatch.holds, found, tooLarge, Nat.not_le_of_gt tooLarge]
        · simp [HeaderMatch.holds, found, tooLarge, CompiledRegex.isMatch,
            Nat.le_of_not_gt tooLarge]

theorem matchesHeaders_fst (cache : RegexCache) (request : Request)
    (predicates : HeaderPredicates) (stats : PredicateStats) :
    (matchesHeaders cache request predicates stats).1 = predicates.holds cache request := by
  cases predicates with
  | none => rfl
  | some predicates => exact allOf_fst (matchesHeaderPredicate_fst cache request) predicates stats

/-- Patterns of letters and digits, searched for as they stand. -/
def wordEngine : RegexEngine :=
  { compiles := fun pattern => pattern.all isAsciiAlphanumeric
    isMatch := fun pattern input => decide (pattern <:+: input)
    isMatchBytes := fun pattern input => decide (pattern <:+: input) }

def emptyCache : RegexCache :=
  { engine := wordEngine, cached := fun _ => none, limits := { inputMaxBytes := 4096 } }

end Pavis.Routing
