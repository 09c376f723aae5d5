/-
Header predicates lowered to a predicate tree.

The same list has two lowerings: to the flat list that the router evaluates, and to
a tree of header matchers. The tree has no leaf for a header that must be absent,
and such a predicate becomes a test for its presence.
-/

import Pavis.Codec.RoutesExport
import Pavis.Routing.PredicateTree

namespace Pavis.Codec.PredicateTrees

open ByteText Fallible
open Config (decimal)
open Routing (Assignment HeaderMatch HeaderMatcher HeaderPredicates MethodMatcher PredicateNode
  RegexCache RegexEngine Request emptyCache matchesHeaders matchesHeaders_fst wordEngine)

section

variable (routeIdx : Nat) (limits : Config.RegexLimits)

def routeMessage (problem : Text) : Text :=
  literal "routes[" ++ decimal routeIdx ++ literal "].match" ++ problem

def headerMessage (headerIdx : Nat) (problem : Text) : Text :=
  routeMessage routeIdx (literal ".headers[" ++ decimal headerIdx ++ literal "]: " ++ problem)

def validateHeaderName (name : Text) : Except Text Unit := do
  reject (name = []) (routeMessage routeIdx (literal ": header name cannot be empty"))
  reject (name.all isHeaderNameByte = false)
    (routeMessage routeIdx (literal ": invalid header name '" ++ name ++
      literal "' (must contain only alphanumeric, -, or _)"))

/-- The code points of the category Cc. -/
def isControl (point : Nat) : Bool := point ≤ 0x1F || (0x7F ≤ point && point ≤ 0x9F)

def validateHeaderValue (value : Text) : Except Text Unit :=
  reject (((decodeUtf8 value).getD []).any (fun point => isControl point && point != 9) = true)
    (routeMessage routeIdx (literal ": invalid header value (contains control characters)"))

/-- The flag says whether the matcher is an advanced one. -/
def matcherToCore (matcher : HeaderMatcherDTO) : Except Text (HeaderMatcher × Bool) :=
  match matcher with
  | .exact name value => do
    validateHeaderName routeIdx name
    validateHeaderValue routeIdx value
    return (.exact (name.map toAsciiLowercase) value, false)
  | .prefixed name expected => do
    validateHeaderName routeIdx name
    validateHeaderValue routeIdx expected
    return (.prefixed (name.map toAsciiLowercase) expected, true)
  | .regex name pattern => do
    validateHeaderName routeIdx name
    reject (pattern.length > limits.patternMaxBytes)
      (routeMessage routeIdx (literal ".predicate: regex pattern for header '" ++ name ++
        literal "' exceeds " ++ decimal limits.patternMaxBytes ++ literal " bytes"))
    return (.regex (name.map toAsciiLowercase) pattern, true)
  | .present name => do
    validateHeaderName routeIdx name
    return (.present (name.map toAsciiLowercase), false)
  | .absent name => do
    validateHeaderName routeIdx name
    return (.present (name.map toAsciiLowercase), true)

def toCore (matcher : HeaderMatcherDTO) : Except Text (PredicateNode × Bool) := do
  let (headerMatcher, usesAdvanced) ← matcherToCore routeIdx limits matcher
  return (.header headerMatcher, usesAdvanced)

def legacyMatcher (headerIdx : Nat) (predicate : HeaderPredicateLegacy) :
    Except Text (HeaderMatcher × Bool) := do
  let canonicalName := predicate.name.map toAsciiLowercase
  reject (predicate.name = [])
    (headerMessage routeIdx headerIdx (literal "header name cannot be empty"))
  validateHeaderName routeIdx predicate.name
  reject ([predicate.regex, predicate.prefixed, predicate.absent].countP id > 1)
    (headerMessage routeIdx headerIdx
      (literal "regex, prefix, and absent are mutually exclusive"))
  if predicate.absent then
    reject (predicate.value.isSome = true)
      (headerMessage routeIdx headerIdx (literal "absent=true cannot have a value"))
    return (.present canonicalName, true)
  else if predicate.regex then
    match predicate.value with
    | none => .error (headerMessage routeIdx headerIdx (literal "regex=true requires a value"))
    | some pattern =>
      reject (pattern.length > limits.patternMaxBytes)
        (headerMessage routeIdx headerIdx
          (literal "regex pattern exceeds " ++ decimal limits.patternMaxBytes ++
            literal " bytes"))
      return (.regex canonicalName pattern, true)
  else if predicate.prefixed then
    match predicate.value with
    | none => .error (headerMessage routeIdx headerIdx (literal "prefix=true requires a value"))
    | some expected => return (.prefixed canonicalName expected, true)
  else
    match predicate.value with
    | some value =>
      validateHeaderValue routeIdx value
      return (.exact canonicalName value, false)
    | none => return (.present canonicalName, false)

def predicateMatcher (headerIdx : Nat) (predicate : HeaderPredicate) :
    Except Text (HeaderMatcher × Bool) :=
  match predicate with
  | .v2 matcher => do
    let (node, advanced) ← toCore routeIdx limits matcher
    match node with
    | .header headerMatcher => return (headerMatcher, advanced)
    | _ => .error (headerMessage routeIdx headerIdx (literal "V2 DTO must be a header matcher"))
  | .v1 legacy => legacyMatcher routeIdx limits headerIdx legacy

/-- A single predicate is the tree itself. -/
def conjunction : List PredicateNode → PredicateNode
  | [single] => single
  | predicates => .and predicates

def desugarP0Headers (headers : List HeaderPredicate) : Except Text (PredicateNode × Bool) :=
  if headers.isEmpty then .ok (.constTrue, false)
  else do
    let lowered ← headers.zipIdx.mapM fun entry =>
      predicateMatcher routeIdx limits entry.2 entry.1
    return (conjunction (lowered.map fun entry => .header entry.1),
      lowered.any fun entry => entry.2)

end

def matcherHolds (cache : RegexCache) (request : Request) : HeaderMatcher → Bool
  | .exact name value => HeaderMatch.holds cache (.exact value) (request.header name)
  | .prefixed name expected => HeaderMatch.holds cache (.prefixed expected) (request.header name)
  | .regex name pattern => HeaderMatch.holds cache (.regex pattern) (request.header name)
  | .present name => HeaderMatch.holds cache .present (request.header name)

def methodHolds (request : Request) : MethodMatcher → Bool
  | .exact method => eqIgnoreAsciiCase request.method method.asStr
  | .anyOf methods => methods.any fun method => eqIgnoreAsciiCase request.method method.asStr

def requestAssignment (cache : RegexCache) (request : Request) : Assignment :=
  { method := methodHolds request, header := matcherHolds cache request }

def evaluate (cache : RegexCache) (request : Request) (tree : PredicateNode) : Bool :=
  tree.holds (requestAssignment cache request)

/-- The leaf that stands for a predicate of the router. -/
def leafOf (predicate : Routing.HeaderPredicate) : HeaderMatcher :=
  match predicate.matcher with
  | .exact value => .exact predicate.name value
  | .prefixed expected => .prefixed predicate.name expected
  | .regex pattern => .regex predicate.name pattern
  | .present => .present predicate.name
  | .absent => .present predicate.name

section

variable {engine : RegexEngine} {vhostIndex pathIndex routeIdx : Nat} {limits : Config.RegexLimits}

variable {headerIndex : Nat} {predicate : Routing.HeaderPredicate} {lowered : HeaderMatcher × Bool}

private theorem matcherToCore_leaf {matcher : HeaderMatcherDTO}
    (compiled : headerPredicateDtoToRuntime engine vhostIndex pathIndex headerIndex matcher =
      .ok predicate) (desugared : matcherToCore routeIdx limits matcher = .ok lowered) :
    lowered.1 = leafOf predicate := by
  obtain ⟨read, matched, built⟩ := bind_eq_ok.mp compiled
  obtain ⟨_, _, built⟩ := bind_eq_ok.mp built
  cases built
  cases matcher with
  | exact | prefixed =>
    cases matched
    obtain ⟨_, _, desugared⟩ := bind_eq_ok.mp desugared
    obtain ⟨_, _, desugared⟩ := bind_eq_ok.mp desugared
    cases desugared
    rfl
  | regex =>
    obtain ⟨_, rfl⟩ := validateHeaderPattern_eq_ok.mp matched
    obtain ⟨_, _, desugared⟩ := bind_eq_ok.mp desugared
    obtain ⟨_, _, desugared⟩ := bind_eq_ok.mp desugared
    cases desugared
    rfl
  | present | absent =>
    cases matched
    obtain ⟨_, _, desugared⟩ := bind_eq_ok.mp desugared
    cases desugared
    rfl

private theorem legacyMatcher_leaf {headerIdx : Nat} {legacy : HeaderPredicateLegacy}
    (compiled : headerPredicateLegacyToRuntime engine vhostIndex pathIndex headerIndex legacy =
      .ok predicate) (desugared : legacyMatcher routeIdx limits headerIdx legacy = .ok lowered) :
    lowered.1 = leafOf predicate := by
  obtain ⟨name, value, regex, prefixed, absent⟩ := legacy
  obtain ⟨_, _, compiled⟩ := bind_eq_ok.mp compiled
  obtain ⟨read, matched, built⟩ := bind_eq_ok.mp compiled
  cases built
  -- past the checks of the name and of the flags
  simp only [legacyMatcher, bind_eq_ok] at desugared
  obtain ⟨_, _, _, _, _, _, desugared⟩ := desugared
  cases absent with
  | true =>
    obtain ⟨_, _, matched⟩ := bind_eq_ok.mp matched
    obtain ⟨_, _, desugared⟩ := bind_eq_ok.mp desugared
    cases matched
    cases desugared
    rfl
  | false =>
    cases regex with
    | true =>
      cases value with
      | none => cases desugared
      | some =>
        cases prefixed with
        | true => cases matched
        | false =>
          obtain ⟨_, rfl⟩ := validateHeaderPattern_eq_ok.mp matched
          obtain ⟨_, _, desugared⟩ := bind_eq_ok.mp desugared
          cases desugared
          rfl
    | false =>
      cases prefixed with
      | true =>
        cases value with
        | none => cases desugared
        | some =>
          cases matched
          cases desugared
          rfl
      | false =>
        cases value with
        | none =>
          cases matched
          cases desugared
          rfl
        | some =>
          cases matched
          obtain ⟨_, _, desugared⟩ := bind_eq_ok.mp desugared
          cases desugared
          rfl

private theorem predicateMatcher_leaf {headerIdx : Nat} {header : HeaderPredicate}
    (compiled : headerPredicateToRuntime engine vhostIndex pathIndex headerIndex header =
      .ok predicate) (desugared : predicateMatcher routeIdx limits headerIdx header = .ok lowered) :
    lowered.1 = leafOf predicate := by
  cases header with
  | v1 => exact legacyMatcher_leaf compiled desugared
  | v2 =>
    obtain ⟨_, cored, desugared⟩ := bind_eq_ok.mp desugared
    obtain ⟨core, found, built⟩ := bind_eq_ok.mp cored
    cases built
    cases desugared
    exact matcherToCore_leaf compiled found

end

def predicateList : HeaderPredicates → List Routing.HeaderPredicate
  | .none => []
  | .some predicates => predicates

private theorem holds_predicateList (cache : RegexCache) (request : Request)
    (predicates : HeaderPredicates) :
    predicates.holds cache request = (predicateList predicates).all fun predicate =>
      predicate.matcher.holds cache (request.header predicate.name) := by
  cases predicates with
  | none | some => rfl

private theorem allHold_eq_all (assignment : Assignment) (nodes : List PredicateNode) :
    PredicateNode.allHold assignment nodes = nodes.all fun node => node.holds assignment := by
  induction nodes with
  | nil => rfl
  | cons head rest ih => rw [PredicateNode.allHold, ih, List.all_cons]

private theorem conjunction_holds (assignment : Assignment) (nodes : List PredicateNode) :
    (conjunction nodes).holds assignment = nodes.all fun node => node.holds assignment := by
  unfold conjunction
  split
  · rw [List.all_cons, List.all_nil, Bool.and_true]
  · rw [PredicateNode.holds, allHold_eq_all]

section

variable {engine : RegexEngine} {vhostIndex pathIndex routeIdx : Nat} {limits : Config.RegexLimits}
  {headers : List HeaderPredicate} {runtime : HeaderPredicates} {tree : PredicateNode}
  {advanced : Bool}

theorem evaluate_desugared
    (compiled : headerPredicatesToRuntime engine (some headers) vhostIndex pathIndex =
      .ok runtime)
    (desugared : desugarP0Headers routeIdx limits headers = .ok (tree, advanced))
    (cache : RegexCache) (request : Request) :
    evaluate cache request tree = (predicateList runtime).all fun predicate =>
      matcherHolds cache request (leafOf predicate) := by
  cases headers with
  | nil =>
    cases compiled
    cases desugared
    rfl
  | cons =>
    obtain ⟨predicates, converted, built⟩ := bind_eq_ok.mp compiled
    cases built
    obtain ⟨lowered, cored, built⟩ := bind_eq_ok.mp desugared
    cases built
    have leaves : List.Forall₂ (fun (entry : HeaderMatcher × Bool) predicate =>
        entry.1 = leafOf predicate) lowered predicates :=
      mapM_both (fun _ _ _ read readToo => predicateMatcher_leaf readToo read)
        cored converted
    rw [evaluate, conjunction_holds, List.all_map]
    clear compiled desugared converted cored
    induction leaves with
    | nil => rfl
    | cons same _ ih =>
      rw [List.all_cons, ih, Function.comp_apply, PredicateNode.holds, same]
      rfl

/-! ### Where they agree -/

variable {predicate : Routing.HeaderPredicate}

theorem matcherHolds_leafOf (wanted : predicate.matcher ≠ .absent) (cache : RegexCache)
    (request : Request) :
    matcherHolds cache request (leafOf predicate) =
      predicate.matcher.holds cache (request.header predicate.name) := by
  obtain ⟨name, matcher⟩ := predicate
  cases matcher with
  | absent => exact absurd rfl wanted
  | present | exact | prefixed | regex => rfl

theorem matcherHolds_absent (unwanted : predicate.matcher = .absent) (cache : RegexCache)
    (request : Request) :
    matcherHolds cache request (leafOf predicate) =
      !predicate.matcher.holds cache (request.header predicate.name) := by
  obtain ⟨name, matcher⟩ := predicate
  cases unwanted
  cases found : request.header name <;> simp [leafOf, matcherHolds, HeaderMatch.holds, found]

/-- For this request nothing hangs on the predicates that want a header to be absent:
there are none, another predicate fails, or of their headers some are there and some
are not. -/
def AbsenceSettled (cache : RegexCache) (request : Request)
    (predicates : List Routing.HeaderPredicate) : Prop :=
  (∀ predicate ∈ predicates, predicate.matcher ≠ .absent) ∨
    (∃ predicate ∈ predicates, predicate.matcher ≠ .absent ∧
      predicate.matcher.holds cache (request.header predicate.name) = false) ∨
    (∃ predicate ∈ predicates, predicate.matcher = .absent ∧
      (request.header predicate.name).isSome = true) ∧
      ∃ predicate ∈ predicates, predicate.matcher = .absent ∧
        (request.header predicate.name).isNone = true

theorem absent_holds (unwanted : predicate.matcher = .absent) (cache : RegexCache)
    (value : Option Bytes) : predicate.matcher.holds cache value = value.isNone := by
  rw [unwanted]
  rfl

private theorem agree_of_settled {cache : RegexCache} {request : Request}
    {predicates : List Routing.HeaderPredicate}
    (settled : AbsenceSettled cache request predicates) :
    (∀ predicate ∈ predicates, matcherHolds cache request (leafOf predicate) = true) ↔
      ∀ predicate ∈ predicates,
        predicate.matcher.holds cache (request.header predicate.name) = true := by
  rcases settled with none | ⟨failing, member, wanted, fails⟩ | ⟨present, missing⟩
  · constructor
    · intro all predicate member
      rw [← matcherHolds_leafOf (none predicate member)]
      exact all predicate member
    · intro all predicate member
      rw [matcherHolds_leafOf (none predicate member)]
      exact all predicate member
  · constructor
    · intro all
      have holds := all failing member
      rw [matcherHolds_leafOf wanted, fails] at holds
      cases holds
    · intro all
      have holds := all failing member
      rw [fails] at holds
      cases holds
  · constructor
    · intro all
      obtain ⟨predicate, member, unwanted, gone⟩ := missing
      have holds := all predicate member
      rw [matcherHolds_absent unwanted, absent_holds unwanted, gone] at holds
      cases holds
    · intro all
      obtain ⟨predicate, member, unwanted, there⟩ := present
      have holds := all predicate member
      rw [absent_holds unwanted] at holds
      rw [Option.isNone_iff_eq_none.mp holds] at there
      cases there

private theorem settled_of_agree {cache : RegexCache} {request : Request}
    {predicates : List Routing.HeaderPredicate}
    (agree : (∀ predicate ∈ predicates, matcherHolds cache request (leafOf predicate) = true) ↔
      ∀ predicate ∈ predicates,
        predicate.matcher.holds cache (request.header predicate.name) = true) :
    AbsenceSettled cache request predicates := by
  by_contra unsettled
  unfold AbsenceSettled at unsettled
  push Not at unsettled
  obtain ⟨⟨unwantedOne, listed, unwanted⟩, others, oneSided⟩ := unsettled
  have othersHold : ∀ predicate ∈ predicates, predicate.matcher ≠ .absent →
      predicate.matcher.holds cache (request.header predicate.name) = true :=
    fun predicate member wanted => Bool.eq_true_of_not_eq_false (others predicate member wanted)
  by_cases present : ∃ predicate ∈ predicates, predicate.matcher = .absent ∧
      (request.header predicate.name).isSome = true
  · have allThere := oneSided present
    have treeHolds : ∀ predicate ∈ predicates,
        matcherHolds cache request (leafOf predicate) = true := by
      intro predicate member
      by_cases absent : predicate.matcher = .absent
      · rw [matcherHolds_absent absent, absent_holds absent]
        rw [Bool.eq_false_of_not_eq_true (allThere predicate member absent)]
        rfl
      · rw [matcherHolds_leafOf absent]
        exact othersHold predicate member absent
    have holds := agree.mp treeHolds unwantedOne listed
    rw [absent_holds unwanted] at holds
    exact allThere unwantedOne listed unwanted holds
  · push Not at present
    have listHolds : ∀ predicate ∈ predicates,
        predicate.matcher.holds cache (request.header predicate.name) = true := by
      intro predicate member
      by_cases absent : predicate.matcher = .absent
      · rw [absent_holds absent]
        simpa using present predicate member absent
      · exact othersHold predicate member absent
    have holds := agree.mpr listHolds unwantedOne listed
    rw [matcherHolds_absent unwanted, listHolds unwantedOne listed] at holds
    cases holds

/-- The tree and the list of predicates agree on a request exactly where the absent
predicates do not decide. -/
theorem lowerings_agree_iff
    (compiled : headerPredicatesToRuntime engine (some headers) vhostIndex pathIndex =
      .ok runtime)
    (desugared : desugarP0Headers routeIdx limits headers = .ok (tree, advanced))
    (cache : RegexCache) (request : Request) (stats : Routing.PredicateStats) :
    (evaluate cache request tree = true ↔
        (matchesHeaders cache request runtime stats).1 = true) ↔
      AbsenceSettled cache request (predicateList runtime) := by
  rw [evaluate_desugared compiled desugared, matchesHeaders_fst, holds_predicateList,
    List.all_eq_true, List.all_eq_true]
  exact ⟨settled_of_agree, agree_of_settled⟩

end

def bareRequest : Request :=
  { hostHeader := none, uriPath := literal "/", method := literal "GET", headers := [] }

def mixedHeaders : List HeaderPredicate :=
  [.v2 (.absent (literal "X-Debug")),
    .v1 { name := literal "X-Trace", value := none, regex := false, prefixed := false
          absent := true },
    .v2 (.exact (literal "X-Mode") (literal "on"))]

def mixedRuntime : List Routing.HeaderPredicate :=
  [{ name := literal "x-debug", matcher := .absent },
    { name := literal "x-trace", matcher := .absent },
    { name := literal "x-mode", matcher := .exact (literal "on") }]

theorem mixedHeaders_agree :
    (evaluate emptyCache { bareRequest with headers := [(literal "X-Trace", literal "1")] }
        (.and [.header (.present (literal "x-debug")), .header (.present (literal "x-trace")),
          .header (.exact (literal "x-mode") (literal "on"))]) = true ↔
      (matchesHeaders emptyCache
        { bareRequest with headers := [(literal "X-Trace", literal "1")] }
        (.some mixedRuntime) Routing.PredicateStats.zero).1 = true) ∧
      AbsenceSettled emptyCache { bareRequest with headers := [(literal "X-Trace", literal "1")] }
        mixedRuntime := by
  have settled : AbsenceSettled emptyCache
      { bareRequest with headers := [(literal "X-Trace", literal "1")] } mixedRuntime := by
    right
    right
    decide +kernel
  have compiled : headerPredicatesToRuntime wordEngine (some mixedHeaders) 0 0 =
      .ok (.some mixedRuntime) := by decide +kernel
  have desugared : desugarP0Headers 0 .default mixedHeaders = .ok
      (.and [.header (.present (literal "x-debug")), .header (.present (literal "x-trace")),
          .header (.exact (literal "x-mode") (literal "on"))], true) := by decide +kernel
  exact ⟨(lowerings_agree_iff compiled desugared emptyCache _ _).mpr settled, settled⟩

/-- A predicate that wants a header absent accepts a request without headers in the
router's list and refuses it in the tree. -/
theorem absent_header_refused :
    headerPredicatesToRuntime wordEngine (some [.v2 (.absent (literal "X-Debug"))]) 0 0 =
        .ok (.some [{ name := literal "x-debug", matcher := .absent }]) ∧
      desugarP0Headers 0 .default [.v2 (.absent (literal "X-Debug"))] =
        .ok (.header (.present (literal "x-debug")), true) ∧
      (matchesHeaders emptyCache bareRequest
        (.some [{ name := literal "x-debug", matcher := .absent }])
        Routing.PredicateStats.zero).1 = true ∧
      evaluate emptyCache bareRequest (.header (.present (literal "x-debug"))) = false := by
  decide +kernel

end Pavis.Codec.PredicateTrees
