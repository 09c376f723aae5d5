/-
Routes of a document and of the runtime.

Header predicates come in two forms, which are checked alike; the export uses the
older one.
-/

import Pavis.Codec.Upstreams

namespace Pavis.Codec

open ByteText Fallible
open Config (BackoffStrategy Destination HeadersPolicy NonZero Principal RetryReason
  RetryableStatusCodes Rewrite Timeout TryTimeout decimal)
open Routing (HeaderMatch HeaderPredicates HttpMethod MethodPredicate PathMatch RegexEngine
  RouteMatcher)

def routeMatchFieldPath (vhostIndex pathIndex : Nat) : Text :=
  FieldPath.field
    (FieldPath.index (FieldPath.field (FieldPath.index (literal "routes") vhostIndex) "paths")
      pathIndex)
    "match"

def routeMethodFieldPath (vhostIndex pathIndex : Nat) : Text :=
  FieldPath.field (routeMatchFieldPath vhostIndex pathIndex) "method"

def routeHeadersFieldPath (vhostIndex pathIndex : Nat) : Text :=
  FieldPath.field (routeMatchFieldPath vhostIndex pathIndex) "headers"

/-- A header is named in the path unless its name is empty. -/
def headerFieldPath (vhostIndex pathIndex : Nat) (headerName : Text) (headerIndex : Nat) : Text :=
  if headerName = [] then FieldPath.index (routeHeadersFieldPath vhostIndex pathIndex) headerIndex
  else FieldPath.mapKey (routeHeadersFieldPath vhostIndex pathIndex) headerName

def retryFieldPath (vhostIndex pathIndex : Nat) (field : String) : Text :=
  literal "routes[" ++ decimal vhostIndex ++ literal "].paths[" ++ decimal pathIndex ++
    literal "].retry." ++ literal field

def methodTable : List (Text × HttpMethod) :=
  [(literal "GET", .get), (literal "POST", .post), (literal "PUT", .put),
    (literal "DELETE", .delete), (literal "PATCH", .patch), (literal "HEAD", .head),
    (literal "OPTIONS", .options), (literal "CONNECT", .connect), (literal "TRACE", .trace)]

def parseHttpMethod (method fieldPath : Text) : Result HttpMethod :=
  match methodTable.lookup (toUppercase method) with
  | some found => .ok found
  | none =>
    .error (.invalidConfig
      (literal "invalid HTTP method '" ++ method ++ literal "' (supported: GET, POST, PUT, " ++
        literal "DELETE, PATCH, HEAD, OPTIONS, CONNECT, TRACE)")
      fieldPath (literal "valid_http_method"))

/-- A list of methods is preferred to a single one. -/
def methodToRuntime (method : Option Text) (methods : Option (List Text))
    (vhostIndex pathIndex : Nat) : Result MethodPredicate :=
  let fieldPath := routeMethodFieldPath vhostIndex pathIndex
  match methods with
  | some list => do
    let list ← list.zipIdx.mapM fun entry =>
      parseHttpMethod entry.1 (FieldPath.index fieldPath entry.2)
    return .list list
  | none =>
    match method with
    | some method => do
      let method ← parseHttpMethod method fieldPath
      return .specific method
    | none => .ok .any

section

variable (engine : RegexEngine) (vhostIndex pathIndex headerIndex : Nat)

def validateHeaderName (name : Text) : Result Unit := do
  reject (name = []) (.invalidConfig (literal "header predicate name cannot be empty")
    (headerFieldPath vhostIndex pathIndex [] headerIndex) (literal "header_name_non_empty"))
  reject (name.all (fun byte => isAsciiAlphanumeric byte || byte = ascii '-' || byte = ascii '_')
      = false)
    (.invalidConfig
      (literal "invalid header name '" ++ name ++
        literal "' (must contain only alphanumeric, -, or _)")
      (headerFieldPath vhostIndex pathIndex name headerIndex) (literal "header_name_invalid"))

/-- The pattern of a header. The text of the compile error is left out. -/
def validateHeaderPattern (name pattern headerPath : Text) : Result HeaderMatch := do
  reject (pattern.length > 256)
    (.invalidConfig
      (literal "regex pattern for header '" ++ name ++ literal "' exceeds 256 bytes")
      headerPath (literal "regex_pattern_too_long"))
  reject (engine.compiles pattern = false)
    (.invalidConfig
      (literal "invalid regex pattern for header '" ++ name ++ literal "'")
      headerPath (literal "regex_invalid_syntax"))
  return .regex pattern

def HeaderMatcherDTO.name : HeaderMatcherDTO → Text
  | .exact name _ => name
  | .prefixed name _ => name
  | .regex name _ => name
  | .present name => name
  | .absent name => name

def headerMatcherToRuntime (predicate : HeaderMatcherDTO) : Result HeaderMatch :=
  match predicate with
  | .exact _ expected => .ok (.exact expected)
  | .prefixed _ expected => .ok (.prefixed expected)
  | .regex name pattern =>
    validateHeaderPattern engine name pattern
      (headerFieldPath vhostIndex pathIndex name headerIndex)
  | .present _ => .ok .present
  | .absent _ => .ok .absent

def headerPredicateDtoToRuntime (predicate : HeaderMatcherDTO) :
    Result Routing.HeaderPredicate := do
  let matcher ← headerMatcherToRuntime engine vhostIndex pathIndex headerIndex predicate
  validateHeaderName vhostIndex pathIndex headerIndex predicate.name
  return { name := predicate.name.map toAsciiLowercase, matcher := matcher }

def flagsError (predicate : HeaderPredicateLegacy) (problem constraint : String) : ConvertError :=
  .invalidConfig
    (literal "header predicate '" ++ predicate.name ++ literal "': " ++ literal problem)
    (headerFieldPath vhostIndex pathIndex (predicate.name.map toAsciiLowercase) headerIndex)
    (literal constraint)

def legacyMatcherToRuntime (predicate : HeaderPredicateLegacy) : Result HeaderMatch :=
  if predicate.absent then do
    reject (predicate.value.isSome || predicate.regex || predicate.prefixed)
      (flagsError vhostIndex pathIndex headerIndex predicate
        "absent=true is incompatible with value, regex, or prefix" "header_absent_incompatible")
    return .absent
  else
    match predicate.value, predicate.regex, predicate.prefixed with
    | none, false, false => .ok .present
    | some expected, false, false => .ok (.exact expected)
    | some expected, false, true => .ok (.prefixed expected)
    | some pattern, true, false =>
      validateHeaderPattern engine predicate.name pattern
        (headerFieldPath vhostIndex pathIndex (predicate.name.map toAsciiLowercase) headerIndex)
    | none, true, _ =>
      .error (flagsError vhostIndex pathIndex headerIndex predicate
        "regex=true requires a value" "regex_requires_value")
    | none, false, true =>
      .error (flagsError vhostIndex pathIndex headerIndex predicate
        "prefix=true requires a value" "prefix_requires_value")
    | some _, true, true =>
      .error (flagsError vhostIndex pathIndex headerIndex predicate
        "regex and prefix are mutually exclusive" "regex_prefix_exclusive")

def headerPredicateLegacyToRuntime (predicate : HeaderPredicateLegacy) :
    Result Routing.HeaderPredicate := do
  validateHeaderName vhostIndex pathIndex headerIndex predicate.name
  let matcher ← legacyMatcherToRuntime engine vhostIndex pathIndex headerIndex predicate
  return { name := predicate.name.map toAsciiLowercase, matcher := matcher }

def headerPredicateToRuntime (predicate : HeaderPredicate) : Result Routing.HeaderPredicate :=
  match predicate with
  | .v1 legacy => headerPredicateLegacyToRuntime engine vhostIndex pathIndex headerIndex legacy
  | .v2 matcher => headerPredicateDtoToRuntime engine vhostIndex pathIndex headerIndex matcher

end

def headerPredicatesToRuntime (engine : RegexEngine) (headers : Option (List HeaderPredicate))
    (vhostIndex pathIndex : Nat) : Result HeaderPredicates :=
  match headers with
  | none => .ok .none
  | some [] => .ok .none
  | some predicates => do
    let predicates ← predicates.zipIdx.mapM fun entry =>
      headerPredicateToRuntime engine vhostIndex pathIndex entry.2 entry.1
    return .some predicates

def defaultMatcher : Matcher :=
  { path := .prefixed (literal "/"), method := none, methods := none, headers := none }

def Route.matcherConfig (route : Route) : Matcher := route.matcher.getD defaultMatcher

def PathMatcher.text : PathMatcher → Text
  | .prefixed path => path
  | .exact path => path
  | .regex path => path

def matcherPath (matcher : Matcher) : Text := matcher.path.text

def pathToRuntime : PathMatcher → PathMatch
  | .prefixed path => .prefixed path
  | .exact path => .exact path
  | .regex path => .regex path

def matcherToRuntime (engine : RegexEngine) (matcher : Matcher) (vhostIndex pathIndex : Nat) :
    Result RouteMatcher := do
  let method ← methodToRuntime matcher.method matcher.methods vhostIndex pathIndex
  let headers ← headerPredicatesToRuntime engine matcher.headers vhostIndex pathIndex
  return { path := pathToRuntime matcher.path, method := method, headers := headers }

def reasonTable : List (Text × RetryReason) :=
  [(literal "status_code", .statusCode), (literal "connect_timeout", .connectTimeout),
    (literal "read_timeout", .readTimeout), (literal "per_try_timeout", .perTryTimeout),
    (literal "pool_full", .poolFull), (literal "connect_error", .connectError)]

section

variable (vhostIndex pathIndex : Nat)

def retryError (field : String) (text : Text) (constraint : String) : ConvertError :=
  .invalidConfig text (retryFieldPath vhostIndex pathIndex field) (literal constraint)

def reasonToRuntime (reason : Text) : Result RetryReason :=
  match reasonTable.lookup reason with
  | some found => .ok found
  | none =>
    .error (retryError vhostIndex pathIndex "retryable_reasons"
      (literal "unknown retryable reason: '" ++ reason ++ literal "'") "valid_retry_reason")

def statusCodesToRuntime (reasons : List RetryReason) (codes : Option (List Nat)) :
    Result (Option RetryableStatusCodes) :=
  if RetryReason.statusCode ∈ reasons then
    match codes with
    | none =>
      .error (retryError vhostIndex pathIndex "retryable_status_codes"
        (literal "retryable_status_codes is required when 'status_code' is in retryable_reasons")
        "required_when_status_code_retryable")
    | some [] =>
      .error (retryError vhostIndex pathIndex "retryable_status_codes"
        (literal "retryable_status_codes cannot be empty when 'status_code' is in " ++
          literal "retryable_reasons")
        "required_when_status_code_retryable")
    | some codes => .ok (some { codes := codes })
  else .ok (codes.map fun codes => { codes := codes })

def backoffToRuntime : BackoffStrategyDTO → BackoffStrategy
  | .fixed baseMs => .fixed baseMs
  | .linear baseMs => .linear baseMs
  | .exponential baseMs maxMs => .exponential baseMs maxMs

def requestTimeoutMs : Timeout → Nat
  | .enabled duration => duration.value
  | .disabled => 60000

/-- The milliseconds are cut to 32 bits, and zero of them counts as one. -/
def perTryToRuntime (routeTimeout : Timeout) (perTry : Option StdDuration) : Result TryTimeout :=
  match perTry with
  | none => .ok .inherit
  | some duration => do
    let perTryMs := duration.asMillis % 2 ^ 32
    reject (perTryMs > requestTimeoutMs routeTimeout)
      (retryError vhostIndex pathIndex "per_try"
        (literal "per_try timeout (" ++ decimal perTryMs ++
          literal "ms) exceeds overall route timeout (" ++
          decimal (requestTimeoutMs routeTimeout) ++ literal "ms)")
        "per_try_timeout_lte_request_timeout")
    return .enabled ((NonZero.new 32 perTryMs).getD (.constant 1))

def convertRetryPolicy (policy : RetryPolicy) (routeTimeout : Timeout) :
    Result Config.RetryPolicy := do
  reject (policy.maxAttempts = 0)
    (retryError vhostIndex pathIndex "max_attempts" (literal "max_attempts must be >= 1")
      "min_value=1")
  reject (policy.maxAttempts > 10)
    (retryError vhostIndex pathIndex "max_attempts"
      (literal "max_attempts " ++ decimal policy.maxAttempts ++ literal " exceeds maximum of 10")
      "max_value=10")
  let maxAttempts ← nonZero 16 policy.maxAttempts (.message (literal "max_attempts must be > 0"))
  let reasons ← policy.retryableReasons.mapM (reasonToRuntime vhostIndex pathIndex)
  let codes ← statusCodesToRuntime vhostIndex pathIndex reasons policy.retryableStatusCodes
  let perTry ← perTryToRuntime vhostIndex pathIndex routeTimeout policy.perTry
  return .enabled
    { maxAttempts := maxAttempts
      perTry := perTry
      retryableReasons := reasons
      retryableStatusCodes := codes
      backoff := backoffToRuntime policy.backoff
      retryNonIdempotent := policy.retryNonIdempotent
      failOnNonReplayableRetry := policy.failOnNonReplayableRetry
      maxRequestBodyBufferBytes := policy.maxRequestBodyBufferBytes }

def retryToRuntime (routeTimeout : Timeout) : Option RetryPolicy → Result Config.RetryPolicy
  | none => .ok .disabled
  | some policy => convertRetryPolicy vhostIndex pathIndex policy routeTimeout

end

def destinationToRuntime (destination : WeightedDestination) : Result Destination := do
  let weight ← required 16 destination.weight
    (.message (literal "destination weight exceeds u16::MAX"))
    (.message (literal "destination weight must be > 0"))
  return { upstream := destination.upstream, weight := weight }

def actionToRuntime : RouteAction → Result Config.RouteAction
  | .forward destinations => do
    let destinations ← destinations.mapM destinationToRuntime
    return .forward destinations
  | .redirect status location => .ok (.redirect status location)
  | .direct status body => .ok (.direct status body)

def timeoutToRuntime : Option StdDuration → Result Timeout
  | none => .ok .disabled
  | some duration => do
    let ms ← required 32 duration.asMillis
      (.message (literal "timeout exceeds u32::MAX ms"))
      (.message (literal "timeout must be > 0"))
    return .enabled ms

def headersToRuntime : Option HeaderOperations → HeadersPolicy
  | none => .disabled
  | some operations =>
    .enabled
      { setHeaders := operations.setHeaders
        appendHeaders := operations.appendHeaders
        addHeaders := operations.addHeaders
        removeHeaders := operations.removeHeaders }

/-- What the matcher matched is what a path rewrite replaces. -/
def rewriteToRuntime (matched : Text) : Option RewritePolicy → Rewrite
  | none => { path := .disabled, host := .disabled }
  | some policy =>
    { path :=
        match policy.path with
        | some target => .prefixed matched target
        | none => .disabled
      host :=
        match policy.host with
        | some host => .literal host
        | none => .disabled }

def principalToRuntime : Option PrincipalConfig → Result Principal
  | none => .ok .any
  | some .any => .ok .any
  | some (.authenticated spiffe) => .ok (.authenticated spiffe)
  | some (.prefixed start) => do
    reject (start = []) (.message (literal "principal.prefix must not be empty"))
    return .prefixed start

def routeToRuntime (engine : RegexEngine) (vhostIndex : Nat) (route : Route) (pathIndex : Nat) :
    Result Config.Route := do
  let action ← actionToRuntime route.action
  let timeout ← timeoutToRuntime route.timeout
  let retry ← retryToRuntime vhostIndex pathIndex timeout route.retry
  let rewrite := rewriteToRuntime (matcherPath route.matcherConfig) route.rewrite
  let matcher ← matcherToRuntime engine route.matcherConfig vhostIndex pathIndex
  let principal ← principalToRuntime route.principal
  return {
    matcher := matcher
    policy :=
      { timeout := timeout
        retry := retry
        requestHeaders := headersToRuntime route.requestHeaders
        responseHeaders := headersToRuntime route.responseHeaders
        rewrite := rewrite
        action := action
        principal := principal } }

def virtualHostToRuntime (engine : RegexEngine) (vhost : VirtualHost) (vhostIndex : Nat) :
    Result Config.VirtualHost := do
  let paths ← vhost.paths.zipIdx.mapM fun entry =>
    routeToRuntime engine vhostIndex entry.1 entry.2
  return { host := vhost.host, paths := paths }

def routesToRuntime (engine : RegexEngine) (routes : List VirtualHost) :
    Result (List Config.VirtualHost) :=
  routes.zipIdx.mapM fun entry => virtualHostToRuntime engine entry.1 entry.2

/-! ### Export -/

def methodFromRuntime : MethodPredicate → Option Text
  | .any => none
  | .specific method => some method.asStr
  | .list _ => none

def methodsFromRuntime : MethodPredicate → Option (List Text)
  | .list methods => some (methods.map HttpMethod.asStr)
  | _ => none

def headerPredicateFromRuntime (predicate : Routing.HeaderPredicate) : HeaderPredicate :=
  let plain : HeaderPredicateLegacy :=
    { name := predicate.name, value := none, regex := false, prefixed := false, absent := false }
  .v1
    (match predicate.matcher with
      | .present => plain
      | .exact expected => { plain with value := some expected }
      | .prefixed expected => { plain with value := some expected, prefixed := true }
      | .regex pattern => { plain with value := some pattern, regex := true }
      | .absent => { plain with absent := true })

def headerPredicatesFromRuntime : HeaderPredicates → Option (List HeaderPredicate)
  | .none => none
  | .some predicates => some (predicates.map headerPredicateFromRuntime)

def pathFromRuntime : PathMatch → PathMatcher
  | .prefixed path => .prefixed path
  | .exact path => .exact path
  | .regex path => .regex path

def matcherFromRuntime (matcher : RouteMatcher) : Matcher :=
  { path := pathFromRuntime matcher.path
    method := methodFromRuntime matcher.method
    methods := methodsFromRuntime matcher.method
    headers := headerPredicatesFromRuntime matcher.headers }

def reasonFromRuntime : RetryReason → Text
  | .statusCode => literal "status_code"
  | .connectTimeout => literal "connect_timeout"
  | .readTimeout => literal "read_timeout"
  | .perTryTimeout => literal "per_try_timeout"
  | .poolFull => literal "pool_full"
  | .connectError => literal "connect_error"

def backoffFromRuntime : BackoffStrategy → BackoffStrategyDTO
  | .fixed baseMs => .fixed baseMs
  | .linear baseMs => .linear baseMs
  | .exponential baseMs maxMs => .exponential baseMs maxMs

def perTryFromRuntime : TryTimeout → Option StdDuration
  | .enabled duration => some (.fromMillis duration.value)
  | _ => none

def retryFromRuntime : Config.RetryPolicy → Option RetryPolicy
  | .disabled => none
  | .enabled settings =>
    some
      { maxAttempts := settings.maxAttempts.value
        retryableReasons := settings.retryableReasons.map reasonFromRuntime
        retryableStatusCodes := settings.retryableStatusCodes.map RetryableStatusCodes.codes
        backoff := backoffFromRuntime settings.backoff
        retryNonIdempotent := settings.retryNonIdempotent
        failOnNonReplayableRetry := settings.failOnNonReplayableRetry
        maxRequestBodyBufferBytes := settings.maxRequestBodyBufferBytes
        perTry := perTryFromRuntime settings.perTry }

def destinationFromRuntime (destination : Destination) : WeightedDestination :=
  { upstream := destination.upstream, weight := destination.weight.value }

def actionFromRuntime : Config.RouteAction → RouteAction
  | .forward destinations => .forward (destinations.map destinationFromRuntime)
  | .redirect status location => .redirect status location
  | .direct status body => .direct status body

def timeoutFromRuntime : Timeout → Option StdDuration
  | .disabled => none
  | .enabled duration => some (.fromMillis duration.value)

def headersFromRuntime : HeadersPolicy → Option HeaderOperations
  | .disabled => none
  | .enabled rules =>
    some
      { setHeaders := rules.setHeaders
        appendHeaders := rules.appendHeaders
        addHeaders := rules.addHeaders
        removeHeaders := rules.removeHeaders }

def rewriteFromRuntime (rewrite : Rewrite) : Option RewritePolicy :=
  match rewrite.path, rewrite.host with
  | .disabled, .disabled => none
  | path, host =>
    some
      { path :=
          match path with
          | .prefixed _ target => some target
          | .disabled => none
        host :=
          match host with
          | .literal host => some host
          | .disabled => none }

def principalFromRuntime : Principal → Option PrincipalConfig
  | .any => none
  | .authenticated spiffe => some (.authenticated spiffe)
  | .prefixed start => some (.prefixed start)

def routeFromRuntime (route : Config.Route) : Route :=
  { matcher := some (matcherFromRuntime route.matcher)
    timeout := timeoutFromRuntime route.policy.timeout
    retry := retryFromRuntime route.policy.retry
    requestHeaders := headersFromRuntime route.policy.requestHeaders
    responseHeaders := headersFromRuntime route.policy.responseHeaders
    rewrite := rewriteFromRuntime route.policy.rewrite
    action := actionFromRuntime route.policy.action
    principal := principalFromRuntime route.policy.principal }

def virtualHostFromRuntime (vhost : Config.VirtualHost) : VirtualHost :=
  { host := vhost.host, paths := vhost.paths.map routeFromRuntime }

def routesFromRuntime (routes : List Config.VirtualHost) : Result (List VirtualHost) :=
  .ok (routes.map virtualHostFromRuntime)

end Pavis.Codec
