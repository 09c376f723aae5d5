/-
Exported routes convert back.

A converted route rewrites what its matcher matches, names headers in lower case
with patterns that compile, and retries within the limits the conversion checks,
so its export passes the same checks.
-/

import Pavis.Codec.Routes
import Pavis.Codec.UpstreamsExport

namespace Pavis.Codec

open ByteText Fallible
open Config (BackoffStrategy Destination HeadersPolicy NonZero Principal RetryReason
  RetryableStatusCodes Timeout TryTimeout)
open Routing (HeaderMatch HeaderPredicates HttpMethod MethodPredicate PathMatch RegexEngine
  RouteMatcher)

private theorem parseHttpMethod_asStr (method : HttpMethod) (fieldPath : Text) :
    parseHttpMethod method.asStr fieldPath = .ok method := by
  have found : methodTable.lookup (toUppercase method.asStr) = some method := by
    cases method <;> decide
  unfold parseHttpMethod
  rw [found]

theorem methodToRuntime_fromRuntime (method : MethodPredicate) (vhostIndex pathIndex : Nat) :
    methodToRuntime (methodFromRuntime method) (methodsFromRuntime method) vhostIndex pathIndex =
      .ok method := by
  cases method with
  | any => rfl
  | specific =>
    unfold methodToRuntime methodFromRuntime methodsFromRuntime
    dsimp only
    rw [parseHttpMethod_asStr, ok_bind]
    rfl
  | list methods =>
    have read := mapM_zipIdx_written
      (fun method index => parseHttpMethod method
        (FieldPath.index (routeMethodFieldPath vhostIndex pathIndex) index))
      HttpMethod.asStr 0 (fun method (_ : method ∈ methods) index =>
        parseHttpMethod_asStr method _)
    unfold methodToRuntime methodFromRuntime methodsFromRuntime
    dsimp only
    rw [read, ok_bind]
    rfl

def isHeaderNameByte (byte : UInt8) : Bool :=
  isAsciiAlphanumeric byte || byte = ascii '-' || byte = ascii '_'

section

variable {engine : RegexEngine} {vhostIndex pathIndex headerIndex : Nat}

variable {name : Text} {result : HeaderMatch}

private theorem validateHeaderName_eq_ok {result : Unit} :
    validateHeaderName vhostIndex pathIndex headerIndex name = .ok result ↔
      name ≠ [] ∧ name.all isHeaderNameByte = true := by
  unfold validateHeaderName
  rw [bind_eq_ok]
  constructor
  · intro found
    obtain ⟨_, named, letters⟩ := found
    exact ⟨reject_eq_ok.mp named, Bool.eq_true_of_not_eq_false (reject_eq_ok.mp letters)⟩
  · intro both
    refine ⟨(), reject_eq_ok.mpr both.1, reject_eq_ok.mpr ?_⟩
    change ¬ (name.all isHeaderNameByte = false)
    rw [both.2]
    exact fun impossible => Bool.noConfusion impossible

private theorem isHeaderNameByte_lowercase {byte : UInt8} (letter : isHeaderNameByte byte = true) :
    isHeaderNameByte (toAsciiLowercase byte) = true := by
  have all : ∀ byte : UInt8, isHeaderNameByte byte = true →
      isHeaderNameByte (toAsciiLowercase byte) = true := by
    refine forall_byte ?_
    decide +kernel
  exact all byte letter

private theorem lowercase_letters (letters : name.all isHeaderNameByte = true) :
    (name.map toAsciiLowercase).all isHeaderNameByte = true := by
  rw [List.all_map, List.all_eq_true]
  intro byte member
  exact isHeaderNameByte_lowercase (List.all_eq_true.mp letters byte member)

theorem validateHeaderPattern_eq_ok {pattern headerPath : Text} :
    validateHeaderPattern engine name pattern headerPath = .ok result ↔
      (pattern.length ≤ 256 ∧ engine.compiles pattern = true) ∧ .regex pattern = result := by
  unfold validateHeaderPattern
  rw [bind_eq_ok]
  constructor
  · intro found
    obtain ⟨_, short, later⟩ := found
    obtain ⟨_, compiles, built⟩ := bind_eq_ok.mp later
    cases built
    exact ⟨⟨Nat.le_of_not_lt (reject_eq_ok.mp short),
      Bool.eq_true_of_not_eq_false (reject_eq_ok.mp compiles)⟩, rfl⟩
  · intro both
    obtain ⟨⟨short, compiles⟩, same⟩ := both
    cases same
    refine ⟨(), reject_passes (Nat.not_lt_of_le short), ?_⟩
    rw [reject_passes (by rw [compiles]; exact fun impossible => Bool.noConfusion impossible)]
    rfl

/-- A matcher holds a pattern that was checked, or none. -/
def CheckedPattern (engine : RegexEngine) (matcher : HeaderMatch) : Prop :=
  ∀ pattern, matcher = .regex pattern → pattern.length ≤ 256 ∧ engine.compiles pattern = true

theorem validateHeaderPattern_checked {pattern headerPath : Text}
    (ran : validateHeaderPattern engine name pattern headerPath = .ok result) :
    CheckedPattern engine result := by
  obtain ⟨checked, same⟩ := validateHeaderPattern_eq_ok.mp ran
  intro other found
  cases same.trans found
  exact checked

private theorem headerMatcherToRuntime_checked {predicate : HeaderMatcherDTO}
    (ran : headerMatcherToRuntime engine vhostIndex pathIndex headerIndex predicate =
      .ok result) : CheckedPattern engine result := by
  cases predicate with
  | regex => exact validateHeaderPattern_checked ran
  | exact | prefixed | present | absent =>
    cases ran
    intro pattern same
    cases same

private theorem legacyMatcherToRuntime_checked {predicate : HeaderPredicateLegacy}
    (ran : legacyMatcherToRuntime engine vhostIndex pathIndex headerIndex predicate =
      .ok result) : CheckedPattern engine result := by
  unfold legacyMatcherToRuntime at ran
  split at ran
  · obtain ⟨_, _, built⟩ := bind_eq_ok.mp ran
    cases built
    intro pattern same
    cases same
  · split at ran
    case h_4 => exact validateHeaderPattern_checked ran
    all_goals
      cases ran <;>
      · intro pattern same
        cases same

private theorem headerPredicateFromRuntime_converts {matcher : HeaderMatch} {checkedName : Unit}
    (named : validateHeaderName vhostIndex pathIndex headerIndex name = .ok checkedName)
    (checked : CheckedPattern engine matcher) (vhost path header : Nat) :
    headerPredicateToRuntime engine vhost path header
      (headerPredicateFromRuntime ⟨name.map toAsciiLowercase, matcher⟩) =
        .ok ⟨name.map toAsciiLowercase, matcher⟩ := by
  obtain ⟨nonempty, letters⟩ := validateHeaderName_eq_ok.mp named
  have passes : validateHeaderName vhost path header (name.map toAsciiLowercase) = .ok () :=
    validateHeaderName_eq_ok.mpr
      ⟨fun empty => nonempty (List.map_eq_nil_iff.mp empty), lowercase_letters letters⟩
  cases matcher with
  | present | exact | prefixed | absent =>
    simp only [headerPredicateFromRuntime, headerPredicateToRuntime,
      headerPredicateLegacyToRuntime, passes, ok_bind, lowercase_lowercase]
    rfl
  | regex pattern =>
    have compiled : ∀ headerPath,
        validateHeaderPattern engine (name.map toAsciiLowercase) pattern headerPath =
          .ok (.regex pattern) :=
      fun _ => validateHeaderPattern_eq_ok.mpr ⟨checked pattern rfl, rfl⟩
    simp only [headerPredicateFromRuntime, headerPredicateToRuntime,
      headerPredicateLegacyToRuntime, legacyMatcherToRuntime, passes, ok_bind, compiled]
    rw [if_neg Bool.false_ne_true, ok_bind, lowercase_lowercase]
    rfl

theorem headerPredicateToRuntime_again {predicate : HeaderPredicate}
    {result : Routing.HeaderPredicate}
    (ran : headerPredicateToRuntime engine vhostIndex pathIndex headerIndex predicate =
      .ok result) (vhost path header : Nat) :
    headerPredicateToRuntime engine vhost path header (headerPredicateFromRuntime result) =
      .ok result := by
  cases predicate with
  | v1 =>
    obtain ⟨_, named, ran⟩ := bind_eq_ok.mp ran
    obtain ⟨_, matched, built⟩ := bind_eq_ok.mp ran
    cases built
    exact headerPredicateFromRuntime_converts named (legacyMatcherToRuntime_checked matched) ..
  | v2 =>
    obtain ⟨_, matched, ran⟩ := bind_eq_ok.mp ran
    obtain ⟨_, named, built⟩ := bind_eq_ok.mp ran
    cases built
    exact headerPredicateFromRuntime_converts named (headerMatcherToRuntime_checked matched) ..

end

section

variable {engine : RegexEngine} {vhostIndex pathIndex : Nat}

private theorem headerPredicatesToRuntime_again {headers : Option (List HeaderPredicate)}
    {result : HeaderPredicates}
    (ran : headerPredicatesToRuntime engine headers vhostIndex pathIndex = .ok result)
    (vhost path : Nat) :
    headerPredicatesToRuntime engine (headerPredicatesFromRuntime result) vhost path =
      .ok result := by
  unfold headerPredicatesToRuntime at ran
  split at ran
  · cases ran
    rfl
  · cases ran
    rfl
  · rename_i written nonempty
    obtain ⟨predicates, converted, built⟩ := bind_eq_ok.mp ran
    cases built
    have read := mapM_zipIdx_written
      (fun predicate index => headerPredicateToRuntime engine vhost path index predicate)
      headerPredicateFromRuntime 0
      (mapM_forall _ (fun _ _ _ ran => headerPredicateToRuntime_again ran vhost path) converted)
    cases predicates with
    | nil =>
      have lengths := (mapM_eq_ok.mp converted).length_eq
      rw [List.length_zipIdx] at lengths
      exact absurd (List.length_eq_zero_iff.mp lengths) nonempty
    | cons =>
      rw [List.map_cons] at read
      simp only [headerPredicatesToRuntime, headerPredicatesFromRuntime, List.map_cons, read,
        ok_bind]
      rfl

private theorem matcherToRuntime_path {matcher : Matcher} {result : RouteMatcher}
    (ran : matcherToRuntime engine matcher vhostIndex pathIndex = .ok result) :
    result.path = pathToRuntime matcher.path := by
  obtain ⟨_, _, later⟩ := bind_eq_ok.mp ran
  obtain ⟨_, _, built⟩ := bind_eq_ok.mp later
  cases built
  rfl

private theorem pathFromRuntime_toRuntime (path : PathMatcher) :
    pathFromRuntime (pathToRuntime path) = path := by
  cases path <;> rfl

private theorem pathToRuntime_fromRuntime (path : PathMatch) :
    pathToRuntime (pathFromRuntime path) = path := by
  cases path <;> rfl

private theorem matcherToRuntime_again {matcher : Matcher} {result : RouteMatcher}
    (ran : matcherToRuntime engine matcher vhostIndex pathIndex = .ok result) (vhost path : Nat) :
    matcherToRuntime engine (matcherFromRuntime result) vhost path = .ok result := by
  obtain ⟨_, _, ran⟩ := bind_eq_ok.mp ran
  obtain ⟨_, headers, built⟩ := bind_eq_ok.mp ran
  cases built
  unfold matcherToRuntime matcherFromRuntime
  simp only [methodToRuntime_fromRuntime, headerPredicatesToRuntime_again headers,
    pathToRuntime_fromRuntime, ok_bind]
  rfl

end

section

variable {vhostIndex pathIndex : Nat}

private theorem reasonToRuntime_fromRuntime (reason : RetryReason) :
    reasonToRuntime vhostIndex pathIndex (reasonFromRuntime reason) = .ok reason := by
  have found : reasonTable.lookup (reasonFromRuntime reason) = some reason := by
    cases reason <;> decide
  unfold reasonToRuntime
  rw [found]

private theorem backoffToRuntime_fromRuntime (backoff : BackoffStrategy) :
    backoffToRuntime (backoffFromRuntime backoff) = backoff := by
  cases backoff <;> rfl

theorem statusCodesToRuntime_given {reasons : List RetryReason} {codes : Option (List Nat)}
    {result : Option RetryableStatusCodes}
    (ran : statusCodesToRuntime vhostIndex pathIndex reasons codes = .ok result)
    (byStatus : .statusCode ∈ reasons) :
    ∃ given, result = some { codes := given } ∧ given ≠ [] := by
  unfold statusCodesToRuntime at ran
  rw [if_pos byStatus] at ran
  split at ran
  · cases ran
  · cases ran
  · rename_i given nonempty
    cases ran
    exact ⟨given, rfl, nonempty⟩

private theorem statusCodesToRuntime_again {reasons : List RetryReason} {codes : Option (List Nat)}
    {result : Option RetryableStatusCodes}
    (ran : statusCodesToRuntime vhostIndex pathIndex reasons codes = .ok result)
    (vhost path : Nat) :
    statusCodesToRuntime vhost path reasons (result.map RetryableStatusCodes.codes) =
      .ok result := by
  by_cases byStatus : .statusCode ∈ reasons
  · obtain ⟨given, rfl, nonempty⟩ := statusCodesToRuntime_given ran byStatus
    unfold statusCodesToRuntime
    rw [if_pos byStatus]
    cases given with
    | nil => exact absurd rfl nonempty
    | cons => rfl
  · unfold statusCodesToRuntime
    rw [if_neg byStatus]
    cases result <;> rfl

private theorem requestTimeoutMs_pos (timeout : Timeout) : 0 < requestTimeoutMs timeout := by
  cases timeout with
  | disabled => exact Nat.succ_pos _
  | enabled duration => exact duration.positive

variable {timeout : Timeout}

private theorem perTryToRuntime_again {perTry : Option StdDuration} {result : TryTimeout}
    (ran : perTryToRuntime vhostIndex pathIndex timeout perTry = .ok result) (vhost path : Nat) :
    perTryToRuntime vhost path timeout (perTryFromRuntime result) = .ok result := by
  cases perTry with
  | none =>
    cases ran
    rfl
  | some written =>
    obtain ⟨_, within, built⟩ := bind_eq_ok.mp ran
    cases built
    generalize taken :
      (NonZero.new 32 (written.asMillis % 2 ^ 32)).getD (.constant 1) = duration
    have bounded : duration.value ≤ requestTimeoutMs timeout := by
      subst taken
      -- Without a whole millisecond the smallest duration is taken, and every timeout has that.
      cases created : NonZero.new 32 (written.asMillis % 2 ^ 32) with
      | none => exact requestTimeoutMs_pos timeout
      | some =>
        have bounded := Nat.le_of_not_lt (reject_eq_ok.mp within)
        rw [← NonZero.value_of_new created] at bounded
        exact bounded
    have kept : (StdDuration.fromMillis duration.value).asMillis % 2 ^ 32 = duration.value := by
      rw [StdDuration.asMillis_fromMillis, Nat.mod_eq_of_lt duration.bounded]
    unfold perTryToRuntime perTryFromRuntime
    simp only [kept, reject_passes (Nat.not_lt_of_le bounded), ok_bind, NonZero.new_value]
    rfl

private theorem retryToRuntime_again {policy : Option RetryPolicy} {result : Config.RetryPolicy}
    (ran : retryToRuntime vhostIndex pathIndex timeout policy = .ok result) (vhost path : Nat) :
    retryToRuntime vhost path timeout (retryFromRuntime result) = .ok result := by
  cases policy with
  | none =>
    cases ran
    rfl
  | some =>
    simp only [retryToRuntime, convertRetryPolicy, bind_eq_ok] at ran
    obtain ⟨_, _, _, atMost, attempts, counted, reasons, _, _, codes, _, perTry, built⟩ := ran
    cases built
    have some : attempts.value ≠ 0 := Nat.ne_of_gt attempts.positive
    have few : ¬ attempts.value > 10 := by
      rw [nonZero_eq_ok counted]
      exact reject_eq_ok.mp atMost
    have named : (reasons.map reasonFromRuntime).mapM (reasonToRuntime vhost path) =
        .ok reasons :=
      mapM_written fun reason _ => reasonToRuntime_fromRuntime reason
    unfold retryToRuntime retryFromRuntime convertRetryPolicy
    simp only [reject_passes some, reject_passes few, ok_bind, nonZero_value, named,
      statusCodesToRuntime_again codes, perTryToRuntime_again perTry,
      backoffToRuntime_fromRuntime]
    rfl

end

/-! ### Routes -/

private theorem destinationToRuntime_fromRuntime (destination : Destination) :
    destinationToRuntime (destinationFromRuntime destination) = .ok destination := by
  unfold destinationToRuntime destinationFromRuntime
  simp only [required_value, ok_bind]
  rfl

private theorem actionToRuntime_fromRuntime (action : Config.RouteAction) :
    actionToRuntime (actionFromRuntime action) = .ok action := by
  cases action with
  | redirect | direct => rfl
  | forward destinations =>
    have read : (destinations.map destinationFromRuntime).mapM destinationToRuntime =
        .ok destinations :=
      mapM_written fun destination _ => destinationToRuntime_fromRuntime destination
    unfold actionToRuntime actionFromRuntime
    simp only [read, ok_bind]
    rfl

private theorem timeoutToRuntime_fromRuntime (timeout : Timeout) :
    timeoutToRuntime (timeoutFromRuntime timeout) = .ok timeout := by
  cases timeout with
  | disabled => rfl
  | enabled =>
    unfold timeoutToRuntime timeoutFromRuntime
    simp only [StdDuration.asMillis_fromMillis, required_value, ok_bind]
    rfl

theorem headersToRuntime_fromRuntime (headers : HeadersPolicy) :
    headersToRuntime (headersFromRuntime headers) = headers := by
  cases headers <;> rfl

private theorem rewriteToRuntime_again (matched : Text) (rewrite : Option RewritePolicy) :
    rewriteToRuntime matched (rewriteFromRuntime (rewriteToRuntime matched rewrite)) =
      rewriteToRuntime matched rewrite := by
  cases rewrite with
  | none => rfl
  | some policy =>
    obtain ⟨path, host⟩ := policy
    cases path <;> cases host <;> rfl

private theorem principalToRuntime_again {config : Option PrincipalConfig} {result : Principal}
    (ran : principalToRuntime config = .ok result) :
    principalToRuntime (principalFromRuntime result) = .ok result := by
  unfold principalToRuntime at ran
  split at ran
  case h_4 =>
    obtain ⟨_, passed, built⟩ := bind_eq_ok.mp ran
    cases built
    unfold principalToRuntime principalFromRuntime
    dsimp only
    rw [passed]
    rfl
  all_goals
    cases ran
    rfl

structure ConvertedRoute (engine : RegexEngine) (vhostIndex pathIndex : Nat) (route : Route)
    (result : Config.Route) : Prop where
  action : actionToRuntime route.action = .ok result.policy.action
  timeout : timeoutToRuntime route.timeout = .ok result.policy.timeout
  retry : retryToRuntime vhostIndex pathIndex result.policy.timeout route.retry =
    .ok result.policy.retry
  rewrite : result.policy.rewrite =
    rewriteToRuntime (matcherPath route.matcherConfig) route.rewrite
  matcher : matcherToRuntime engine route.matcherConfig vhostIndex pathIndex = .ok result.matcher
  principal : principalToRuntime route.principal = .ok result.policy.principal

section

variable {engine : RegexEngine} {vhostIndex pathIndex : Nat} {route : Route}
  {result : Config.Route}

theorem routeToRuntime_converted
    (ran : routeToRuntime engine vhostIndex route pathIndex = .ok result) :
    ConvertedRoute engine vhostIndex pathIndex route result := by
  simp only [routeToRuntime, bind_eq_ok] at ran
  obtain ⟨_, action, _, timeout, _, retry, _, matcher, _, principal, built⟩ := ran
  cases built
  exact {
    action := action
    timeout := timeout
    retry := retry
    rewrite := rfl
    matcher := matcher
    principal := principal }

theorem ConvertedRoute.path (converted : ConvertedRoute engine vhostIndex pathIndex route result) :
    result.matcher.path = pathToRuntime route.matcherConfig.path :=
  matcherToRuntime_path converted.matcher

private theorem routeToRuntime_again
    (ran : routeToRuntime engine vhostIndex route pathIndex = .ok result) (vhost path : Nat) :
    routeToRuntime engine vhost (routeFromRuntime result) path = .ok result := by
  have converted := routeToRuntime_converted ran
  have rewritten :
      rewriteToRuntime (matcherPath (matcherFromRuntime result.matcher))
        (rewriteFromRuntime result.policy.rewrite) = result.policy.rewrite := by
    unfold matcherPath matcherFromRuntime
    rw [converted.path, pathFromRuntime_toRuntime, converted.rewrite]
    exact rewriteToRuntime_again _ _
  unfold routeToRuntime routeFromRuntime
  simp only [Route.matcherConfig, Option.getD_some, actionToRuntime_fromRuntime,
    timeoutToRuntime_fromRuntime, retryToRuntime_again converted.retry,
    headersToRuntime_fromRuntime, ok_bind, matcherToRuntime_again converted.matcher, rewritten,
    principalToRuntime_again converted.principal]
  rfl

end

private theorem virtualHostToRuntime_again {engine : RegexEngine} {vhost : VirtualHost}
    {vhostIndex : Nat} {result : Config.VirtualHost}
    (ran : virtualHostToRuntime engine vhost vhostIndex = .ok result) (other : Nat) :
    virtualHostToRuntime engine (virtualHostFromRuntime result) other = .ok result := by
  obtain ⟨_, paths, built⟩ := bind_eq_ok.mp ran
  cases built
  have again := mapM_zipIdx_written (routeToRuntime engine other) routeFromRuntime 0
    (mapM_forall _ (fun _ _ _ ran => routeToRuntime_again ran other) paths)
  unfold virtualHostToRuntime virtualHostFromRuntime
  simp only [again, ok_bind]
  rfl

theorem routesToRuntime_again {engine : RegexEngine} {routes : List VirtualHost}
    {results : List Config.VirtualHost} (ran : routesToRuntime engine routes = .ok results) :
    routesToRuntime engine (results.map virtualHostFromRuntime) = .ok results :=
  mapM_zipIdx_written (virtualHostToRuntime engine) virtualHostFromRuntime 0
    (mapM_forall _ (fun _ _ _ ran => virtualHostToRuntime_again ran) ran)

end Pavis.Codec
