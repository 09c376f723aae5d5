/-
The request filter.

What it does to the connection is kept as a list of effects. The chunks of the body
come with whether the shared budget grants them.
-/

import Pavis.Proxy.Identity
import Pavis.Proxy.Retry
import Pavis.Proxy.ServerName
import Pavis.Routing.MatchRequest
import Pavis.Upstream.HealthMonitor

namespace Pavis.Proxy

open ByteText Config State Upstream
open Routing (Request matchRequest wordEngine)

/-- The rest of the context, beside what names the upstream and its host. A permit
is named by the cluster it is of, and the runtime state by its number. -/
structure RequestContext extends RouterContext where
  upstreamEndpoint : Option EndpointAddr
  requestHeaders : HeadersPolicy
  responseHeaders : HeadersPolicy
  clientIdentity : Option Text
  rbacDenied : Bool
  routeTimeout : Timeout
  retryPolicy : RetryPolicy
  routePattern : Option Text
  poolPermit : Option ClusterRef
  circuitBreakerPermit : Option ClusterRef
  runtimeState : Option Nat
  retryCtx : Option RetryContext
  bufferedBody : Option BufferedBody
  deriving DecidableEq

def newRequestCtx : RequestContext :=
  { newCtx with
    upstreamEndpoint := none
    requestHeaders := .disabled
    responseHeaders := .disabled
    clientIdentity := none
    rbacDenied := false
    routeTimeout := .disabled
    retryPolicy := .disabled
    routePattern := none
    poolPermit := none
    circuitBreakerPermit := none
    runtimeState := none
    retryCtx := none
    bufferedBody := none }

def earlyRequestFilter (certificate : Option AlternativeNames) (ctx : RequestContext) :
    RequestContext :=
  match ctx.clientIdentity with
  | some _ => ctx
  | none => { ctx with clientIdentity := extractClientIdentity certificate }

def applyRouteHeaders (ctx : RequestContext) (route : Route) : RequestContext :=
  { ctx with
    requestHeaders := route.policy.requestHeaders
    responseHeaders := route.policy.responseHeaders
    routeTimeout := route.policy.timeout
    retryPolicy := route.policy.retry }

def resolveRouteTimeout : Timeout → Option Nat
  | .enabled duration => some duration.value
  | .disabled => none

inductive BufferEnd where
  | complete
  | truncated
  | budgetExhausted
  | failed
  deriving DecidableEq

structure BufferLoop where
  bodyBytes : Bytes
  budgetGuard : BudgetGuard
  ended : BufferEnd
  deriving DecidableEq

/-- The loop over the chunks. Reading fails, or the body ends, behind the last one. -/
def bufferLoop (limit : Nat) (bodyFails : Bool) :
    List (Bytes × Bool) → Bytes → BudgetGuard → BufferLoop
  | [], bodyBytes, guard =>
    { bodyBytes := bodyBytes, budgetGuard := guard,
      ended := if bodyFails then .failed else .complete }
  | (chunk, granted) :: rest, bodyBytes, guard =>
    if bodyBytes.length + chunk.length > limit then
      { bodyBytes := bodyBytes, budgetGuard := guard, ended := .truncated }
    else
      match guard.tryAdd granted chunk.length with
      | (guard, false) =>
        { bodyBytes := bodyBytes, budgetGuard := guard, ended := .budgetExhausted }
      | (guard, true) => bufferLoop limit bodyFails rest (bodyBytes ++ chunk) guard

/-- What the filter meets: an instant, the chunks of the body with their grants,
whether reading them fails in the end, a draw, and whether an answer is written. -/
structure FilterInputs where
  now : Instant
  chunks : List (Bytes × Bool)
  bodyFails : Bool
  draw : Nat
  responds : Bool

inductive FilterError where
  | readRequestBody
  | writeResponse
  deriving DecidableEq

def retryUpstreamName (action : RouteAction) : Text :=
  match action with
  | .forward (destination :: _) => destination.upstream
  | _ => literal "unknown"

def prepareRetry (route : Route) (inputs : FilterInputs) (ctx : RequestContext) :
    Except FilterError RequestContext :=
  match ctx.retryPolicy with
  | .disabled => .ok ctx
  | .enabled settings =>
    let limit := settings.maxRequestBodyBufferBytes
    let loop := bufferLoop limit inputs.bodyFails inputs.chunks [] .new
    match loop.ended with
    | .failed => .error .readRequestBody
    | .budgetExhausted => .ok ctx
    | .complete | .truncated =>
      .ok { ctx with
        retryCtx := some (.new ctx.retryPolicy
          ((resolveRouteTimeout ctx.routeTimeout).getD 60000)
          (retryUpstreamName route.policy.action) inputs.now)
        bufferedBody := some (.new loop.bodyBytes limit (loop.ended == .truncated)
          (some loop.budgetGuard)) }

inductive FilterEffect where
  | readBody
  | selectUpstream (upstream : Text)
  | respondError (status : Nat)
  | redirect (status : Nat) (location : Text) (headers : HeadersPolicy)
  | direct (status : Nat) (body : Text) (headers : HeadersPolicy)
  deriving DecidableEq

structure FilterResult where
  ctx : RequestContext
  effects : List FilterEffect
  result : Except FilterError Bool

def readEffects (policy : RetryPolicy) : List FilterEffect :=
  match policy with
  | .disabled => []
  | .enabled _ => [.readBody]

/-- An answer of the filter itself, which ends the request. -/
def answerWith (ctx : RequestContext) (effects : List FilterEffect) (answer : FilterEffect)
    (responds : Bool) : FilterResult :=
  { ctx := ctx
    effects := effects ++ [answer]
    result := if responds then .ok true else .error .writeResponse }

def selectDestination (ctx : RequestContext) (effects : List FilterEffect)
    (destinations : List Destination) (draw : Nat) : FilterResult :=
  let totalWeight := (destinations.map fun destination => destination.weight.value).sum % 2 ^ 32
  if totalWeight = 0 then { ctx := ctx, effects := effects, result := .ok false }
  else
    match pickDestination destinations (draw % totalWeight) with
    | none => { ctx := ctx, effects := effects, result := .ok false }
    | some destination =>
      { ctx := { ctx with upstreamName := some destination.upstream }
        effects := effects ++ [.selectUpstream destination.upstream]
        result := .ok false }

def serveRoute (route : Route) (inputs : FilterInputs) (ctx : RequestContext) : FilterResult :=
  let ctx := { ctx with
    toRouterContext := setRewrittenHost ctx.toRouterContext route.policy.rewrite.host }
  let effects := readEffects ctx.retryPolicy
  match prepareRetry route inputs ctx with
  | .error failure => { ctx := ctx, effects := effects, result := .error failure }
  | .ok ctx =>
    match route.policy.action with
    | .forward destinations => selectDestination ctx effects destinations inputs.draw
    | .redirect status location =>
      answerWith ctx effects (.redirect status location route.policy.responseHeaders)
        inputs.responds
    | .direct status body =>
      answerWith ctx effects (.direct status body route.policy.responseHeaders)
        inputs.responds

/-- The result is whether the filter has answered the request. -/
def RequestContext.requestFilter (ctx : RequestContext) (index : Nat)
    (state : MaterializedRuntimeConfig) (request : Request) (inputs : FilterInputs) :
    FilterResult :=
  let ctx := { ctx with runtimeState := some index }
  match (matchRequest state.router request).selection with
  | none => { ctx := ctx, effects := [.respondError 404], result := .ok true }
  | some selection =>
    let route := selection.route
    let ctx := applyRouteHeaders { ctx with routePattern := some (routePath route) } route
    if isAuthorized route.policy.principal ctx.clientIdentity then serveRoute route inputs ctx
    else
      { ctx := { ctx with rbacDenied := true }
        effects := [.respondError 403]
        result := .ok true }

/-- The two filters, on a request that has just been read. -/
def filterRequest (certificate : Option AlternativeNames) (index : Nat)
    (state : MaterializedRuntimeConfig) (request : Request) (inputs : FilterInputs) :
    FilterResult :=
  (earlyRequestFilter certificate newRequestCtx).requestFilter index state request inputs

variable {inputs : FilterInputs} {ctx : RequestContext} {answered : Bool}

theorem prepareRetry_kept {route : Route} {after : RequestContext}
    (ran : prepareRetry route inputs ctx = .ok after) :
    ∃ retryCtx bufferedBody,
      after = { ctx with retryCtx := retryCtx, bufferedBody := bufferedBody } := by
  unfold prepareRetry at ran
  split at ran
  · cases ran
    exact ⟨ctx.retryCtx, ctx.bufferedBody, rfl⟩
  · dsimp only at ran
    split at ran
    · cases ran
    · cases ran
      exact ⟨ctx.retryCtx, ctx.bufferedBody, rfl⟩
    · cases ran
      exact ⟨_, _, rfl⟩
    · cases ran
      exact ⟨_, _, rfl⟩

theorem answerWith_result {effects : List FilterEffect} {answer : FilterEffect} {responds : Bool}
    (finished : (answerWith ctx effects answer responds).result = .ok answered) :
    answered = true := by
  unfold answerWith at finished
  dsimp only at finished
  split at finished
  · cases finished
    rfl
  · cases finished

private theorem serveRoute_names {route : Route}
    (finished : (serveRoute route inputs ctx).result = .ok answered) :
    requestFilter route true inputs.draw ctx.toRouterContext =
      if answered then none
      else some (serveRoute route inputs ctx).ctx.toRouterContext := by
  unfold Proxy.requestFilter
  unfold serveRoute at finished ⊢
  dsimp only at finished ⊢
  split at finished
  · cases finished
  · rename_i prepared ran
    obtain ⟨retryCtx, bufferedBody, rfl⟩ := prepareRetry_kept ran
    split at finished
    · rename_i destinations action
      rw [action]
      unfold selectDestination at finished ⊢
      dsimp only at finished ⊢
      split at finished
      · rename_i weightless
        cases finished
        rw [if_pos weightless, if_pos weightless]
        rfl
      · rename_i weighted
        rw [if_neg weighted, if_neg weighted]
        cases picked : pickDestination destinations (inputs.draw %
            ((destinations.map fun destination => destination.weight.value).sum % 2 ^ 32)) with
        | none | some =>
          rw [picked] at finished
          cases finished
          rfl
    · rename_i action
      rw [action, answerWith_result finished]
      rfl
    · rename_i action
      rw [action, answerWith_result finished]
      rfl

/-- The filter passes a request on with the upstream and the host that were found
from the route alone, and answers it where those were not looked for. -/
theorem requestFilter_names (ctx : RequestContext) (index : Nat) (state : MaterializedRuntimeConfig)
    (request : Request) (inputs : FilterInputs) {selection : Routing.Selection RoutePolicy}
    (matched : (matchRequest state.router request).selection = some selection)
    (finished : (ctx.requestFilter index state request inputs).result = .ok answered) :
    requestFilter selection.route
        (isAuthorized selection.route.policy.principal ctx.clientIdentity) inputs.draw
        ctx.toRouterContext =
      if answered then none
      else some (ctx.requestFilter index state request inputs).ctx.toRouterContext := by
  unfold RequestContext.requestFilter at finished ⊢
  rw [matched] at finished ⊢
  dsimp only [applyRouteHeaders] at finished ⊢
  cases authorized : isAuthorized selection.route.policy.principal ctx.clientIdentity with
  | true =>
    rw [authorized] at finished
    exact serveRoute_names finished
  | false =>
    rw [authorized] at finished
    cases finished
    rfl

def FilterEffect.servesRoute : FilterEffect → Bool
  | .respondError _ => false
  | .readBody | .selectUpstream _ | .redirect _ _ _ | .direct _ _ _ => true

/-- The filter read the body, selected an upstream or answered from the route. -/
def FilterResult.ServesRoute (result : FilterResult) : Prop :=
  (∃ effect ∈ result.effects, effect.servesRoute = true) ∨ result.ctx.upstreamName ≠ none

/-- The request matches a route whose principal admits the identity. -/
def Admitted (state : MaterializedRuntimeConfig) (request : Request) (identity : Option Text) :
    Prop :=
  ∃ selection, (matchRequest state.router request).selection = some selection ∧
    isAuthorized selection.route.policy.principal identity = true

private theorem not_servesRoute_respondError (unnamed : ctx.upstreamName = none) (status : Nat)
    (result : Except FilterError Bool) :
    ¬ ({ ctx := ctx, effects := [.respondError status], result := result } :
      FilterResult).ServesRoute := by
  rintro (⟨effect, member, serves⟩ | named)
  · cases List.mem_singleton.mp member
    cases serves
  · exact named unnamed

private theorem requestFilter_admitted (unnamed : ctx.upstreamName = none) {index : Nat}
    {state : MaterializedRuntimeConfig} {request : Request}
    (serves : (ctx.requestFilter index state request inputs).ServesRoute) :
    Admitted state request ctx.clientIdentity := by
  unfold RequestContext.requestFilter at serves
  dsimp only at serves
  split at serves
  · exact absurd serves (not_servesRoute_respondError (by exact unnamed) 404 _)
  · rename_i selection matched
    split at serves
    · rename_i authorized
      exact ⟨selection, matched, authorized⟩
    · exact absurd serves (not_servesRoute_respondError (by exact unnamed) 403 _)

/-- A request is served from its route only when the principal of the route admits
the identity in the client's certificate. A prefix admits every identity that starts
with its text, and so in the middle of a segment unless it ends in a slash. -/
theorem served_requests_admitted (certificate : Option AlternativeNames) (index : Nat)
    (state : MaterializedRuntimeConfig) (request : Request) (inputs : FilterInputs) (start : Text) :
    ((filterRequest certificate index state request inputs).ServesRoute →
        Admitted state request (extractClientIdentity certificate)) ∧
      (isAuthorized (.prefixed start) (extractClientIdentity certificate) = true ↔
        ∃ id rest, extractClientIdentity certificate = some id ∧ id = start ++ rest) ∧
      ((∀ presented id, extractClientIdentity presented = some id →
          isAuthorized (.prefixed start) (some id) = true → ContinuesSegment start id) ↔
        start.getLast? = some (ascii '/') ∨ start = literal "spiffe:" ∨
          ∀ presented,
            isAuthorized (.prefixed start) (extractClientIdentity presented) = false) := by
  refine ⟨fun serves => requestFilter_admitted rfl serves,
    isAuthorized_prefixed_iff start _, ?_⟩
  have safe : (∀ presented id, extractClientIdentity presented = some id →
      isAuthorized (.prefixed start) (some id) = true → ContinuesSegment start id) ↔
        ∀ id, IsSpiffeId id → isAuthorized (.prefixed start) (some id) = true →
          ContinuesSegment start id := by
    constructor
    · intro every id wellFormed
      obtain ⟨presented, extracted⟩ := (extractClientIdentity_iff id).mpr wellFormed
      exact every presented id extracted
    · intro every presented id extracted
      exact every id ((extractClientIdentity_iff id).mp ⟨presented, extracted⟩)
  have refused : (∀ presented,
      isAuthorized (.prefixed start) (extractClientIdentity presented) = false) ↔
        ∀ id, IsSpiffeId id → isAuthorized (.prefixed start) (some id) = false := by
    constructor
    · intro every id wellFormed
      obtain ⟨presented, extracted⟩ := (extractClientIdentity_iff id).mpr wellFormed
      rw [← extracted]
      exact every presented
    · intro every presented
      cases extracted : extractClientIdentity presented with
      | none => rfl
      | some id => exact every id ((extractClientIdentity_iff id).mp ⟨presented, extracted⟩)
  rw [safe, refused]
  exact prefixed_segments_iff start

def plainState (routes : List VirtualHost) (upstreams : List Upstream) :
    Except BuildError MaterializedRuntimeConfig := do
  let router ← (Routing.Router.withRegex routes
    { engine := wordEngine
      cached := fun _ => none
      limits := emptyConfig.features.regexLimits.toRegexLimits }).mapError .router
  let upstreamManager ← (Manager.build channelSurroundings.lookups
    channelSurroundings.loadsMaterials channelSurroundings.clock upstreams).mapError .upstreams
  return { router := router, upstreamManager := upstreamManager }

def guardedRoute : Route :=
  { matcher := { path := .prefixed (literal "/"), method := .any, headers := .none }
    policy := { forwardTo (literal "api") with
      principal := .prefixed (literal "spiffe://prod") } }

def plainRequest : Request :=
  { hostHeader := some (literal "example.com")
    uriPath := literal "/"
    method := literal "GET"
    headers := [] }

def plainInputs : FilterInputs :=
  { now := 0, chunks := [], bodyFails := false, draw := 0, responds := true }

/-- The prefix of one trust domain admits a workload of another one. -/
theorem other_domain_admitted :
    (plainState [{ host := literal "example.com", paths := [guardedRoute] }] []).map
        (fun state => (filterRequest (some (some [.uri (literal "spiffe://prod-evil/web")])) 0 state
          plainRequest plainInputs).effects) =
      .ok [.selectUpstream (literal "api")] ∧
    ¬ ContinuesSegment (literal "spiffe://prod") (literal "spiffe://prod-evil/web") := by
  constructor
  · decide +kernel
  · exact @not_continuesSegment (literal "spiffe://prod") (literal "evil/web") (ascii '-')
      (by decide) (by decide)

end Pavis.Proxy
