/-
The hooks of one request.

The framework filters a request, asks for a peer, and reports what becomes of the
attempt. It asks again only after a result with its retry flag set. Asking for a
peer waits for the pool and for the breaker, so it is cut into three steps.
-/

import Pavis.Proxy.RequestFilter

namespace Pavis.Proxy

open ByteText Config LabelledRun State Upstream
open Routing (HttpMethod Request)

inductive ErrorType where
  | connectTimedout
  | readTimedout
  | internalError
  | httpStatus (code : Nat)
  | other (name : Text)
  deriving DecidableEq

structure ProxyError where
  etype : ErrorType
  context : Option Text
  retry : Bool
  deriving DecidableEq

/-- An error is made without asking for a retry. -/
def ProxyError.explain (etype : ErrorType) (context : Text) : ProxyError :=
  { etype := etype, context := some context, retry := false }

def bodyNotReplayable : ProxyError :=
  .explain (.httpStatus 500)
    (literal "ERR_RETRY_BODY_NOT_REPLAYABLE: body size exceeds buffer limit")

def PeerError.explanation : PeerError → Text
  | .noUpstreamSelected => literal "No upstream selected"
  | .upstreamNotFound => literal "Upstream not found in config"
  | .notAdmitted => literal "Upstream pool unavailable"
  | .noEndpoints => literal "Upstream has no endpoints"
  | .dnsNotMaterialized host port =>
    literal "DNS endpoint " ++ host ++ literal ":" ++ DigitText.spell 10 port.value ++
      literal " was not materialized during config load"
  | .verifyFullRequiresSni => literal "TLS verify=full requires SNI (auto or explicit)"

def PeerError.raise (failure : PeerError) : ProxyError :=
  .explain .internalError failure.explanation

/-- A status as it stands in a response. -/
structure StatusCode where
  value : Nat
  lower : 100 ≤ value
  upper : value < 1000
  deriving DecidableEq

def StatusCode.constant (value : Nat)
    (fits : decide (100 ≤ value ∧ value < 1000) = true := by exact Eq.refl true) : StatusCode :=
  ⟨value, (of_decide_eq_true fits).1, (of_decide_eq_true fits).2⟩

namespace RequestContext

def charge (ctx : RequestContext) : RequestContext :=
  { ctx with retryCtx := ctx.retryCtx.map RetryContext.nextAttempt }

def canReplay (ctx : RequestContext) : Bool :=
  match ctx.bufferedBody with
  | some body => body.canReplay
  | none => true

def failsOnNonReplayable (ctx : RequestContext) : Bool :=
  match ctx.retryPolicy with
  | .enabled settings => settings.failOnNonReplayableRetry
  | .disabled => false

/-- A full queue and a wait that timed out differ in their text only. -/
def poolRejected (ctx : RequestContext) (context : Text) (now : Instant) :
    RequestContext × ProxyError :=
  let error := ProxyError.explain (.httpStatus 503) context
  match ctx.retryCtx with
  | none => (ctx, error)
  | some retryCtx =>
    if retryCtx.isRetryable .poolFull && retryCtx.canRetry now then
      (ctx.charge, { error with retry := true })
    else (ctx, error)

def connectReason : ErrorType → RetryReason
  | .connectTimedout => .connectTimeout
  | .readTimedout | .internalError | .httpStatus _ | .other _ => .connectError

def failToConnect (ctx : RequestContext) (method : HttpMethod) (error : ProxyError)
    (now : Instant) : RequestContext × ProxyError :=
  match ctx.retryCtx with
  | none => (ctx, error)
  | some retryCtx =>
    if retryCtx.isMethodAllowed method && retryCtx.isRetryable (connectReason error.etype) &&
        retryCtx.canRetry now then
      if ctx.canReplay then (ctx.charge, { error with retry := true })
      else if ctx.failsOnNonReplayable then (ctx, bodyNotReplayable)
      else (ctx, error)
    else (ctx, error)

def proxyReason : ErrorType → RetryReason
  | .readTimedout => .readTimeout
  | .connectTimedout | .internalError | .httpStatus _ | .other _ => .statusCode

/-- A connection that had been used before is retried without further checks. The
peer, which the hook adds to the context of the error, is left out. -/
def errorWhileProxy (ctx : RequestContext) (method : HttpMethod) (error : ProxyError)
    (clientReused retryBufferTruncated : Bool) (now : Instant) : RequestContext × ProxyError :=
  if clientReused then (ctx, { error with retry := true })
  else
    match ctx.retryCtx with
    | none => (ctx, { error with retry := false })
    | some retryCtx =>
      if retryCtx.isMethodAllowed method && retryCtx.isRetryable (proxyReason error.etype) &&
          retryCtx.canRetry now then
        (ctx.charge, { error with retry := !retryBufferTruncated })
      else (ctx, { error with retry := false })

def responseFilter (ctx : RequestContext) (method : HttpMethod) (status : StatusCode)
    (now : Instant) : RequestContext × Option ProxyError :=
  match ctx.retryCtx with
  | none => (ctx, none)
  | some retryCtx =>
    if retryCtx.isMethodAllowed method && retryCtx.isStatusCodeRetryable status.value &&
        retryCtx.canRetry now then
      if ctx.canReplay then
        (ctx.charge,
          some { etype := .httpStatus status.value
                 context := some (literal "retryable upstream response")
                 retry := true })
      else if ctx.failsOnNonReplayable then (ctx, some bodyNotReplayable)
      else (ctx, none)
    else (ctx, none)

def isRetrying (ctx : RequestContext) : Bool :=
  match ctx.retryCtx with
  | some retryCtx => 1 < retryCtx.attempt
  | none => false

def dropPermits (ctx : RequestContext) : RequestContext :=
  { ctx with poolPermit := none, circuitBreakerPermit := none }

/-- The permits of the attempt before are dropped only when attempts were counted. -/
def beginning (ctx : RequestContext) : RequestContext :=
  if ctx.isRetrying then ctx.dropPermits else ctx

def nonReplayable (ctx : RequestContext) : Bool :=
  match ctx.bufferedBody, ctx.retryPolicy with
  | some body, .enabled settings => !body.handleNonReplayable settings.failOnNonReplayableRetry
  | _, _ => false

/-- What keeps a retry from waiting for a permit. -/
def retryRefusal (ctx : RequestContext) (now : Instant) : Option ProxyError :=
  match ctx.retryCtx with
  | none => none
  | some retryCtx =>
    if 1 < retryCtx.attempt then
      if retryCtx.isDeadlineExceeded now then
        some (.explain (.httpStatus 504)
          (literal "ERR_REQUEST_TIMEOUT_GLOBAL: total request time exceeded deadline"))
      else if ctx.nonReplayable then some bodyNotReplayable
      else none
    else none

def cluster (ctx : RequestContext) : Option ClusterRef :=
  match ctx.runtimeState, ctx.upstreamName with
  | some state, some name => some { state := state, name := name }
  | _, _ => none

end RequestContext

/-! ### The request in its surroundings -/

inductive Stage where
  | fresh
  | responded
  | ready
  | waitingPool (cluster : ClusterRef)
  | waitingBreaker (cluster : ClusterRef)
  | proxying
  | answered (status : StatusCode)
  | refused (retry : Bool)
  | failed (retry : Bool)
  | closed
  deriving DecidableEq

namespace Stage

/-- The framework starts an attempt after the filter, or when it was asked to. -/
def startsAttempt : Stage → Bool
  | .ready | .refused true | .failed true => true
  | _ => false

/-- A peer was returned, and the attempt is not over yet. -/
def inFlight : Stage → Bool
  | .proxying | .answered _ | .failed _ => true
  | _ => false

def waitsFor : Stage → Option ClusterRef
  | .waitingPool cluster | .waitingBreaker cluster => some cluster
  | _ => none

end Stage

/-- The endpoint an attempt selected, and whether it ended with an error or with a
status that is a server error. -/
structure Attempt where
  endpoint : Option EndpointAddr
  failed : Bool
  deriving DecidableEq

def Attempt.new : Attempt := { endpoint := none, failed := false }

def Attempt.mark (failed : Bool) : List Attempt → List Attempt
  | [] => []
  | attempt :: earlier => { attempt with failed := failed } :: earlier

def Attempt.select (endpoint : EndpointAddr) : List Attempt → List Attempt
  | [] => []
  | attempt :: earlier => { attempt with endpoint := some endpoint } :: earlier

/-- Every runtime state that was ever stored, the last one current, and one request
among them. Its attempts, newest first, the results that asked for a retry and the
outcomes that were recorded are histories, which the code does not keep. -/
structure RequestSystem where
  states : List MaterializedRuntimeConfig
  request : Request
  retryBufferTruncated : Bool
  ctx : RequestContext
  stage : Stage
  attempts : List Attempt
  asked : Nat
  recorded : List (EndpointAddr × UpstreamOutcome)

inductive PoolAnswer where
  | granted
  | queueFull
  | queueTimeout
  | closed
  deriving DecidableEq

inductive RequestAction where
  | receive (certificate : Option AlternativeNames) (inputs : FilterInputs)
  | beginAttempt (now : Instant)
  | poolAnswers (answer : PoolAnswer) (now : Instant)
  | breakerAnswers (granted : Bool) (draw : Nat) (readings : Readings)
  | failToConnect (error : ProxyError) (now : Instant)
  | errorWhileProxy (error : ProxyError) (clientReused : Bool) (now : Instant)
  | responseFilter (status : StatusCode) (now : Instant)
  | truncateRetryBuffer
  | logging (written : Option StatusCode) (readings : Readings)
  | perform (index : Nat) (name : Text) (call : ClusterCall) (readings : Readings)
  | store (state : MaterializedRuntimeConfig)

namespace RequestSystem

def start (state : MaterializedRuntimeConfig) (request : Request) : RequestSystem :=
  { states := [state]
    request := request
    retryBufferTruncated := false
    ctx := newRequestCtx
    stage := .fresh
    attempts := []
    asked := 0
    recorded := [] }

def current (system : RequestSystem) : Nat := system.states.length - 1

def method (system : RequestSystem) : HttpMethod := methodFromStr system.request.method

def clusterAt (states : List MaterializedRuntimeConfig) (ref : ClusterRef) : Option Cluster :=
  states[ref.state]?.bind fun state => state.upstreamManager.get ref.name

def setManager (states : List MaterializedRuntimeConfig) (index : Nat) (manager : Manager) :
    List MaterializedRuntimeConfig :=
  states.modify index fun state => { state with upstreamManager := manager }

def refuse (system : RequestSystem) (ctx : RequestContext) (error : ProxyError) :
    RequestSystem × Option ProxyError :=
  ({ system with
      ctx := ctx
      stage := .refused error.retry
      attempts := Attempt.mark true system.attempts },
    some error)

def fail (system : RequestSystem) (result : RequestContext × ProxyError) :
    RequestSystem × Option ProxyError :=
  ({ system with
      ctx := result.1
      stage := .failed result.2.retry
      attempts := Attempt.mark true system.attempts },
    some result.2)

def receive (system : RequestSystem) (state : MaterializedRuntimeConfig)
    (certificate : Option AlternativeNames) (inputs : FilterInputs) : RequestSystem :=
  let result := filterRequest certificate system.current state system.request inputs
  { system with
    ctx := result.ctx
    stage :=
      match result.result with
      | .ok false => .ready
      | .ok true | .error _ => .responded }

/-- The part of `upstream_peer` before it waits. The text about a missing state is
without the id of the request. -/
def beginAttempt (system : RequestSystem) (now : Instant) : RequestSystem × Option ProxyError :=
  let system := { system with attempts := Attempt.new :: system.attempts }
  match system.ctx.upstreamName with
  | none => system.refuse system.ctx (PeerError.raise .noUpstreamSelected)
  | some name =>
    match system.ctx.runtimeState with
    | none =>
      system.refuse system.ctx
        (.explain .internalError (literal "missing runtime snapshot"))
    | some index =>
      match clusterAt system.states { state := index, name := name } with
      | none => system.refuse system.ctx (PeerError.raise .upstreamNotFound)
      | some _ =>
        match system.ctx.retryRefusal now with
        | some error => system.refuse system.ctx.beginning error
        | none =>
          ({ system with
              ctx := system.ctx.beginning
              stage := .waitingPool { state := index, name := name } },
            none)

def poolAnswers (system : RequestSystem) (cluster : ClusterRef) (answer : PoolAnswer)
    (now : Instant) : RequestSystem × Option ProxyError :=
  match answer with
  | .granted => ({ system with stage := .waitingBreaker cluster }, none)
  | .queueFull =>
    let result := system.ctx.poolRejected
      (literal "ERR_UPSTREAM_POOL_FULL: connection pool is full") now
    system.refuse result.1 result.2
  | .queueTimeout =>
    let result := system.ctx.poolRejected
      (literal "ERR_UPSTREAM_POOL_FULL: connection pool wait timed out") now
    system.refuse result.1 result.2
  | .closed => system.refuse system.ctx (PeerError.raise .notAdmitted)

def breakerPermit (ref : ClusterRef) (cluster : Cluster) : Option ClusterRef :=
  match cluster.config.circuitBreaker with
  | .disabled => none
  | .enabled _ _ => some ref

/-- The part of `upstream_peer` after it has waited. The permit of the pool is put
into the context at the very end. -/
def connect (system : RequestSystem) (ref : ClusterRef) (cluster : Cluster)
    (state : MaterializedRuntimeConfig) (draw : Nat) (readings : Readings) :
    RequestSystem × Option ProxyError :=
  let permit := breakerPermit ref cluster
  let result := upstreamPeer state.upstreamManager system.ctx.toRouterContext true draw readings
  let system := { system with states := setManager system.states ref.state result.manager }
  match result.forwarded with
  | none =>
    system.refuse { system.ctx with circuitBreakerPermit := none }
      (PeerError.raise .noEndpoints)
  | some forwarded =>
    let endpoint := forwarded.endpoint.address
    let system := { system with
      ctx := { system.ctx with
        circuitBreakerPermit := permit
        upstreamEndpoint := some endpoint }
      attempts := Attempt.select endpoint system.attempts }
    match forwarded.peer with
    | .error failure => system.refuse system.ctx failure.raise
    | .ok _ =>
      ({ system with ctx := { system.ctx with poolPermit := some ref }, stage := .proxying },
        none)

def breakerAnswers (system : RequestSystem) (ref : ClusterRef) (granted : Bool) (draw : Nat)
    (readings : Readings) : Option (RequestSystem × Option ProxyError) :=
  match system.states[ref.state]? with
  | none => none
  | some state =>
    match state.upstreamManager.get ref.name with
    | none => none
    | some cluster =>
      if granted then some (system.connect ref cluster state draw readings)
      else if (breakerPermit ref cluster).isSome then
        some (system.refuse system.ctx
          (.explain (.httpStatus 503) (literal "circuit breaker rejected request")))
      else none

def responseFilter (system : RequestSystem) (status : StatusCode) (now : Instant) :
    RequestSystem × Option ProxyError :=
  match system.ctx.responseFilter system.method status now with
  | (ctx, some error) => system.fail (ctx, error)
  | (ctx, none) =>
    ({ system with
        ctx := ctx
        stage := .answered status
        attempts := Attempt.mark (500 ≤ status.value) system.attempts },
      none)

/-- The status is zero when no response was written. -/
def outcome (failed : Bool) (written : Option StatusCode) : UpstreamOutcome :=
  let status := (written.map StatusCode.value).getD 0
  if failed || 500 ≤ status then .failure
  else if 0 < status then .success
  else .failure

def logging (system : RequestSystem) (failed : Bool) (written : Option StatusCode)
    (readings : Readings) : RequestSystem :=
  let closed := { system with ctx := system.ctx.dropPermits, stage := .closed }
  match system.ctx.cluster, system.ctx.upstreamEndpoint with
  | some ref, some endpoint =>
    match system.states[ref.state]? with
    | none => closed
    | some state =>
      match state.upstreamManager.get ref.name with
      | none => closed
      | some _ =>
        { closed with
          states := setManager system.states ref.state
            (performOn state.upstreamManager ref.name readings
              (.recordOutcome endpoint (outcome failed written)))
          recorded := system.recorded ++ [(endpoint, outcome failed written)] }
  | _, _ => closed

def advance (system : RequestSystem) (action : RequestAction) :
    Option (RequestSystem × Option ProxyError) :=
  match action with
  | .receive certificate inputs =>
    match system.stage, system.states[system.current]? with
    | .fresh, some state => some (system.receive state certificate inputs, none)
    | _, _ => none
  | .beginAttempt now =>
    if system.stage.startsAttempt then some (system.beginAttempt now) else none
  | .poolAnswers answer now =>
    match system.stage with
    | .waitingPool cluster => some (system.poolAnswers cluster answer now)
    | _ => none
  | .breakerAnswers granted draw readings =>
    match system.stage with
    | .waitingBreaker cluster => system.breakerAnswers cluster granted draw readings
    | _ => none
  | .failToConnect error now =>
    if system.stage.inFlight then
      some (system.fail (system.ctx.failToConnect system.method error now))
    else none
  | .errorWhileProxy error clientReused now =>
    if system.stage.inFlight then
      some (system.fail (system.ctx.errorWhileProxy system.method error clientReused
        system.retryBufferTruncated now))
    else none
  | .responseFilter status now =>
    if system.stage.inFlight then some (system.responseFilter status now) else none
  | .truncateRetryBuffer => some ({ system with retryBufferTruncated := true }, none)
  | .logging written readings =>
    match system.stage with
    | .responded => some (system.logging false written readings, none)
    | .answered status =>
      if written = some status then some (system.logging false written readings, none)
      else none
    | .refused _ | .failed _ => some (system.logging true written readings, none)
    | _ => none
  | .perform index name call readings =>
    match system.states[index]? with
    | none => none
    | some state =>
      some ({ system with
          states := setManager system.states index
            (performOn state.upstreamManager name readings call) },
        none)
  | .store state => some ({ system with states := system.states ++ [state] }, none)

end RequestSystem

/-- Whether a hook gave the framework an error with its retry flag set. -/
def asksRetry : Option ProxyError → Bool
  | none => false
  | some error => error.retry

def requestStep : Machine RequestSystem RequestAction (Option ProxyError) :=
  fun system action =>
    match system.advance action with
    | none => none
    | some (after, output) =>
      some ({ after with asked := after.asked + (asksRetry output).toNat }, output)

end Pavis.Proxy
