/-
The moves of a request.

What a hook decides from its policy is forgotten here. Left is where the request
stands, which attempt counts and which permits are in its context. Every step of
the hooks is one of the moves.
-/

import Pavis.Proxy.Hooks

namespace Pavis.Proxy

open ByteText Config KeyedMap LabelledRun State Upstream
open Routing (HttpMethod Request)
open RequestSystem (advance clusterAt setManager)

variable {stage : Stage}

theorem waitsFor_waitingPool {ref : ClusterRef} (standing : stage = .waitingPool ref) :
    stage.waitsFor = some ref := by
  rw [standing]
  rfl

theorem waitsFor_waitingBreaker {ref : ClusterRef} (standing : stage = .waitingBreaker ref) :
    stage.waitsFor = some ref := by
  rw [standing]
  rfl

theorem waitsFor_of_startsAttempt (starts : stage.startsAttempt = true) :
    stage.waitsFor = none := by
  cases stage with
  | waitingPool | waitingBreaker => cases starts
  | _ => rfl

theorem waitsFor_of_inFlight (flies : stage.inFlight = true) : stage.waitsFor = none := by
  cases stage with
  | waitingPool | waitingBreaker => cases flies
  | _ => rfl

theorem startsAttempt_cases (starts : stage.startsAttempt = true) :
    stage = .ready ∨ stage = .refused true ∨ stage = .failed true := by
  cases stage with
  | ready => exact Or.inl rfl
  | refused retry =>
    cases retry with
    | true => exact Or.inr (Or.inl rfl)
    | false => cases starts
  | failed retry =>
    cases retry with
    | true => exact Or.inr (Or.inr rfl)
    | false => cases starts
  | _ => cases starts

/-- A retry context belongs to an enabled policy and has a body beside it. -/
def RequestContext.Retries (ctx : RequestContext) : Prop :=
  ∀ retryCtx, ctx.retryCtx = some retryCtx →
    ∃ settings body, ctx.retryPolicy = .enabled settings ∧ retryCtx.Counting settings ∧
      ctx.bufferedBody = some body

/-- Nothing of an attempt is in the context yet. -/
structure RequestContext.Unattempted (ctx : RequestContext) : Prop where
  endpoint : ctx.upstreamEndpoint = none
  pool : ctx.poolPermit = none
  breaker : ctx.circuitBreakerPermit = none
  first : ctx.isRetrying = false
  retries : ctx.Retries

variable {ctx after : RequestContext}

theorem RequestContext.Unattempted.of_absent (endpoint : ctx.upstreamEndpoint = none)
    (pool : ctx.poolPermit = none) (breaker : ctx.circuitBreakerPermit = none)
    (absent : ctx.retryCtx = none) : ctx.Unattempted := by
  refine ⟨endpoint, pool, breaker, ?_, ?_⟩
  · unfold RequestContext.isRetrying
    rw [absent]
  · intro retryCtx present
    rw [absent] at present
    cases present

theorem RequestContext.isRetrying_new {retryCtx : RetryContext}
    (present : ctx.retryCtx = some retryCtx) (first : retryCtx.attempt = 1) :
    ctx.isRetrying = false := by
  unfold isRetrying
  rw [present]
  dsimp only
  rw [first]
  rfl

private theorem prepareRetry_unattempted {route : Route} {inputs : FilterInputs}
    (unattempted : ctx.Unattempted) (ran : prepareRetry route inputs ctx = .ok after) :
    after.Unattempted := by
  unfold prepareRetry at ran
  split at ran
  · cases ran
    exact unattempted
  · rename_i settings policy
    have made : ∀ loop : BufferLoop, RequestContext.Unattempted { ctx with
        retryCtx := some (.new ctx.retryPolicy
          ((resolveRouteTimeout ctx.routeTimeout).getD 60000)
          (retryUpstreamName route.policy.action) inputs.now)
        bufferedBody := some (.new loop.bodyBytes settings.maxRequestBodyBufferBytes
          (loop.ended == .truncated) (some loop.budgetGuard)) } := by
      intro loop
      refine ⟨unattempted.endpoint, unattempted.pool, unattempted.breaker,
        RequestContext.isRetrying_new rfl rfl, ?_⟩
      intro retryCtx same
      cases same
      refine ⟨settings, _, policy, ?_, rfl⟩
      rw [policy]
      exact RetryContext.counting_new settings _ _ _
    dsimp only at ran
    split at ran
    · cases ran
    · cases ran
      exact unattempted
    · cases ran
      exact made _
    · cases ran
      exact made _

theorem selectDestination_unattempted (unattempted : ctx.Unattempted) (effects : List FilterEffect)
    (destinations : List Destination) (draw : Nat) :
    (selectDestination ctx effects destinations draw).ctx.Unattempted := by
  unfold selectDestination
  dsimp only
  split
  · exact unattempted
  · split
    · exact unattempted
    · exact ⟨unattempted.endpoint, unattempted.pool, unattempted.breaker, unattempted.first,
        unattempted.retries⟩

theorem serveRoute_unattempted {route : Route} {inputs : FilterInputs}
    (unattempted : ctx.Unattempted) : (serveRoute route inputs ctx).ctx.Unattempted := by
  have rewritten : RequestContext.Unattempted { ctx with
      toRouterContext := setRewrittenHost ctx.toRouterContext route.policy.rewrite.host } :=
    ⟨unattempted.endpoint, unattempted.pool, unattempted.breaker, unattempted.first,
      unattempted.retries⟩
  unfold serveRoute
  dsimp only
  split
  · exact rewritten
  · rename_i prepared ran
    have ready := prepareRetry_unattempted rewritten ran
    split
    · exact selectDestination_unattempted ready _ _ _
    · exact ready
    · exact ready

private theorem filterRequest_unattempted (certificate : Option AlternativeNames) (index : Nat)
    (state : MaterializedRuntimeConfig) (request : Request) (inputs : FilterInputs) :
    (filterRequest certificate index state request inputs).ctx.Unattempted := by
  unfold filterRequest RequestContext.requestFilter
  dsimp only
  split
  · exact .of_absent rfl rfl rfl rfl
  · split
    · exact serveRoute_unattempted (.of_absent rfl rfl rfl rfl)
    · exact .of_absent rfl rfl rfl rfl

/-- The counter of the context moves by one, while it may. -/
def RequestContext.Charges (ctx after : RequestContext) : Prop :=
  ∃ retryCtx now, ctx.retryCtx = some retryCtx ∧ retryCtx.canRetry now = true ∧ after = ctx.charge

theorem RequestContext.Charges.retries (charges : ctx.Charges after) (retries : ctx.Retries) :
    after.Retries := by
  obtain ⟨retryCtx, now, present, more, rfl⟩ := charges
  obtain ⟨settings, body, policy, counting, buffered⟩ := retries retryCtx present
  intro next same
  unfold charge at same
  rw [present] at same
  cases same
  exact ⟨settings, body, policy, counting.nextAttempt more, buffered⟩

theorem RequestContext.Charges.isRetrying (charges : ctx.Charges after) (retries : ctx.Retries) :
    after.isRetrying = true := by
  obtain ⟨retryCtx, now, present, more, rfl⟩ := charges
  obtain ⟨settings, body, policy, counting, buffered⟩ := retries retryCtx present
  have first := counting.first
  unfold RequestContext.isRetrying charge
  rw [present]
  dsimp only [Option.map_some]
  rw [counting.attempt_nextAttempt more]
  exact decide_eq_true (by omega)

private theorem poolRejected_spent (ctx : RequestContext) (context : Text) (now : Instant) :
    ((ctx.poolRejected context now).2.retry = true ∧
        ctx.Charges (ctx.poolRejected context now).1) ∨
      ((ctx.poolRejected context now).2.retry = false ∧
        (ctx.poolRejected context now).1 = ctx) := by
  unfold RequestContext.poolRejected
  dsimp only
  split
  · exact Or.inr ⟨rfl, rfl⟩
  · rename_i retryCtx present
    split
    · rename_i allowed
      rw [Bool.and_eq_true] at allowed
      exact Or.inl ⟨rfl, retryCtx, now, present, allowed.2, rfl⟩
    · exact Or.inr ⟨rfl, rfl⟩

theorem failToConnect_spent (ctx : RequestContext) (method : HttpMethod) (error : ProxyError)
    (now : Instant) :
    ctx.Charges (ctx.failToConnect method error now).1 ∨
      ((ctx.failToConnect method error now).1 = ctx ∧
        ((ctx.failToConnect method error now).2.retry = true → error.retry = true)) := by
  unfold RequestContext.failToConnect
  split
  · exact Or.inr ⟨rfl, id⟩
  · rename_i retryCtx present
    split
    · rename_i allowed
      rw [Bool.and_eq_true] at allowed
      split
      · exact Or.inl ⟨retryCtx, now, present, allowed.2, rfl⟩
      · split
        · refine Or.inr ⟨rfl, ?_⟩
          intro asks
          cases asks
        · exact Or.inr ⟨rfl, id⟩
    · exact Or.inr ⟨rfl, id⟩

theorem errorWhileProxy_spent (ctx : RequestContext) (method : HttpMethod) (error : ProxyError)
    (clientReused truncated : Bool) (now : Instant) :
    ctx.Charges (ctx.errorWhileProxy method error clientReused truncated now).1 ∨
      ((ctx.errorWhileProxy method error clientReused truncated now).1 = ctx ∧
        ((ctx.errorWhileProxy method error clientReused truncated now).2.retry = true →
          clientReused = true)) := by
  unfold RequestContext.errorWhileProxy
  cases clientReused with
  | true => exact Or.inr ⟨rfl, fun _ => rfl⟩
  | false =>
    rw [if_neg Bool.false_ne_true]
    split
    · exact Or.inr ⟨rfl, id⟩
    · rename_i retryCtx present
      split
      · rename_i allowed
        rw [Bool.and_eq_true] at allowed
        exact Or.inl ⟨retryCtx, now, present, allowed.2, rfl⟩
      · exact Or.inr ⟨rfl, id⟩

theorem responseFilter_spent (ctx : RequestContext) (method : HttpMethod) (status : StatusCode)
    (now : Instant) :
    (∃ error, (ctx.responseFilter method status now).2 = some error ∧
        ctx.Charges (ctx.responseFilter method status now).1) ∨
      ((ctx.responseFilter method status now).1 = ctx ∧
        ∀ error, (ctx.responseFilter method status now).2 = some error → error.retry = false) := by
  unfold RequestContext.responseFilter
  split
  · refine Or.inr ⟨rfl, ?_⟩
    intro error present
    cases present
  · rename_i retryCtx present
    split
    · rename_i allowed
      rw [Bool.and_eq_true] at allowed
      split
      · exact Or.inl ⟨_, rfl, retryCtx, now, present, allowed.2, rfl⟩
      · refine Or.inr ⟨?_, ?_⟩
        · split <;> rfl
        · intro error raised
          split at raised
          · cases raised
            rfl
          · cases raised
    · refine Or.inr ⟨rfl, ?_⟩
      intro error raised
      cases raised

def KeepsClusters (before after : List MaterializedRuntimeConfig) : Prop :=
  ∀ ref, (clusterAt before ref).isSome = true →
    (clusterAt after ref).isSome = true

variable {manager : Manager} {other : Text}

theorem get_insert_isSome {name : Text} (cluster : Cluster)
    (present : (manager.get other).isSome = true) :
    (({ clusters := manager.clusters.insert name cluster } : Manager).get other).isSome = true := by
  unfold Manager.get at present ⊢
  dsimp only
  by_cases same : other = name
  · rw [same, AList.lookup_insert]
    rfl
  · rw [AList.lookup_insert_ne same]
    exact present

theorem performOn_get_isSome {name : Text} (readings : Readings) (call : ClusterCall)
    (present : (manager.get other).isSome = true) :
    ((performOn manager name readings call).get other).isSome = true := by
  unfold performOn
  split
  · exact present
  · exact get_insert_isSome _ present

private theorem upstreamPeer_get_isSome (ctx : RouterContext) (admitted : Bool) (draw : Nat)
    (readings : Readings) (present : (manager.get other).isSome = true) :
    ((upstreamPeer manager ctx admitted draw readings).manager.get other).isSome = true := by
  unfold upstreamPeer
  split
  · exact present
  · split
    · exact present
    · split
      · dsimp only
        split <;> exact get_insert_isSome _ present
      · exact present

private theorem setManager_keepsClusters {states : List MaterializedRuntimeConfig} {index : Nat}
    {state : MaterializedRuntimeConfig} (found : states[index]? = some state)
    (kept : ∀ name, (state.upstreamManager.get name).isSome = true →
      (manager.get name).isSome = true) :
    KeepsClusters states (setManager states index manager) := by
  intro ref present
  unfold clusterAt setManager at *
  rw [List.getElem?_modify]
  by_cases same : index = ref.state
  · subst same
    rw [found] at present ⊢
    simp only [if_true]
    exact kept ref.name present
  · simp only [if_neg same]
    simpa using present

theorem append_keepsClusters (states : List MaterializedRuntimeConfig)
    (state : MaterializedRuntimeConfig) : KeepsClusters states (states ++ [state]) := by
  intro ref present
  unfold clusterAt at *
  cases found : states[ref.state]? with
  | none =>
    rw [found] at present
    cases present
  | some =>
    rw [found] at present
    rw [List.getElem?_append_left (List.getElem?_eq_some_iff.mp found).1, found]
    exact present

/-- A hook of the request, in contrast to what others do meanwhile. -/
def RequestAction.isHook : RequestAction → Bool
  | .store _ => false
  | .perform _ _ _ _ => false
  | _ => true

def RequestAction.stored : RequestAction → Option MaterializedRuntimeConfig
  | .store state => some state
  | _ => none

/-- The manager at an index is replaced, and a hook replaces one cluster of it. -/
structure Updates (before : RequestSystem) (action : RequestAction) (index : Nat)
    (state : MaterializedRuntimeConfig) (manager : Manager) : Prop where
  found : before.states[index]? = some state
  keeps : ∀ name, (state.upstreamManager.get name).isSome = true →
    (manager.get name).isSome = true
  hook : action.isHook = true →
    (∃ ref, (before.stage.waitsFor = some ref ∨ before.ctx.cluster = some ref) ∧
      ref.state = index) ∧
    ∀ name, before.ctx.upstreamName ≠ some name →
      manager.get name = state.upstreamManager.get name

inductive Touches (before : RequestSystem) (action : RequestAction) :
    List MaterializedRuntimeConfig → Prop where
  | nothing (silent : action.stored = none) : Touches before action before.states
  | cluster (index : Nat) (state : MaterializedRuntimeConfig) (manager : Manager)
      (silent : action.stored = none)
      (updates : Updates before action index state manager) :
      Touches before action (setManager before.states index manager)
  | stores (state : MaterializedRuntimeConfig) (same : action = .store state) :
      Touches before action (before.states ++ [state])

theorem get_insert_of_ne {name : Text} (cluster : Cluster) (different : other ≠ name) :
    ({ clusters := manager.clusters.insert name cluster } : Manager).get other =
      manager.get other :=
  AList.lookup_insert_ne different

private theorem performOn_get_of_ne {name : Text} (readings : Readings) (call : ClusterCall)
    (different : other ≠ name) :
    (performOn manager name readings call).get other = manager.get other := by
  unfold performOn
  split
  · rfl
  · exact get_insert_of_ne _ different

private theorem upstreamPeer_get_of_ne {ctx : RouterContext} (admitted : Bool) (draw : Nat)
    (readings : Readings) (different : ctx.upstreamName ≠ some other) :
    (upstreamPeer manager ctx admitted draw readings).manager.get other = manager.get other := by
  unfold upstreamPeer
  split
  · rfl
  · rename_i name named
    have distinct : other ≠ name := fun same => different (same ▸ named)
    split
    · rfl
    · split
      · dsimp only
        split <;> exact get_insert_of_ne _ distinct
      · rfl

theorem upstreamName_of_cluster {ctx : RequestContext} {ref : ClusterRef}
    (routed : ctx.cluster = some ref) : ctx.upstreamName = some ref.name := by
  unfold RequestContext.cluster at routed
  split at routed
  · rename_i named
    cases routed
    exact named
  · cases routed

theorem Touches.keepsClusters {before : RequestSystem} {action : RequestAction}
    {states : List MaterializedRuntimeConfig} (touches : Touches before action states) :
    KeepsClusters before.states states := by
  cases touches with
  | nothing => exact fun _ present => present
  | cluster index state manager silent updates =>
    exact setManager_keepsClusters updates.found updates.keeps
  | stores state => exact append_keepsClusters before.states state

/-! ### Moves -/

/-- An error whose retry flag is set without a look at the policy. -/
def RequestAction.asksFreely : RequestAction → Bool
  | .failToConnect error _ => error.retry
  | .errorWhileProxy _ clientReused _ => clientReused
  | _ => false

/-- Where a request ends, with whether it ends with an error. -/
def EndsWith (stage : Stage) (failed : Bool) (written : Option StatusCode) : Prop :=
  stage = .responded ∨ (∃ status, stage = .answered status ∧ failed = false ∧
      written = some status) ∨
    ((∃ retry, stage = .refused retry ∨ stage = .failed retry) ∧ failed = true)

inductive Moves (before : RequestSystem) (action : RequestAction) :
    RequestSystem → Option ProxyError → Prop where
  | elsewhere (states : List MaterializedRuntimeConfig) (truncated : Bool)
      (kept : KeepsClusters before.states states) :
      Moves before action { before with states := states, retryBufferTruncated := truncated } none
  | receives (ctx : RequestContext) (stage : Stage) (fresh : before.stage = .fresh)
      (unattempted : ctx.Unattempted) (leads : stage = .ready ∨ stage = .responded) :
      Moves before action { before with ctx := ctx, stage := stage } none
  | begins (ref : ClusterRef) (starts : before.stage.startsAttempt = true)
      (routed : before.ctx.cluster = some ref)
      (present : (clusterAt before.states ref).isSome = true) :
      Moves before action
        { before with
          ctx := before.ctx.beginning
          stage := .waitingPool ref
          attempts := Attempt.new :: before.attempts }
        none
  | refusesAtOnce (ctx : RequestContext) (error : ProxyError)
      (starts : before.stage.startsAttempt = true)
      (kept : ctx = before.ctx ∨ ctx = before.ctx.beginning) (once : error.retry = false) :
      Moves before action
        (({ before with attempts := Attempt.new :: before.attempts } : RequestSystem).refuse
          ctx error).1 (some error)
  | grants (ref : ClusterRef) (waiting : before.stage = .waitingPool ref) :
      Moves before action { before with stage := .waitingBreaker ref } none
  | refusesPermit (ref : ClusterRef) (states : List MaterializedRuntimeConfig)
      (ctx : RequestContext) (error : ProxyError) (waiting : before.stage.waitsFor = some ref)
      (kept : KeepsClusters before.states states)
      (spent : (error.retry = true ∧ before.ctx.Charges ctx) ∨
        (error.retry = false ∧
          (ctx = before.ctx ∨ ctx = { before.ctx with circuitBreakerPermit := none }))) :
      Moves before action
        (({ before with states := states } : RequestSystem).refuse ctx error).1 (some error)
  | refusesPeer (ref : ClusterRef) (states : List MaterializedRuntimeConfig)
      (endpoint : EndpointAddr) (permit : Option ClusterRef) (error : ProxyError)
      (waiting : before.stage = .waitingBreaker ref) (kept : KeepsClusters before.states states)
      (once : error.retry = false) :
      Moves before action
        (({ before with
            states := states
            attempts := Attempt.select endpoint before.attempts } : RequestSystem).refuse
          { before.ctx with
            circuitBreakerPermit := permit
            upstreamEndpoint := some endpoint } error).1 (some error)
  | connects (ref : ClusterRef) (states : List MaterializedRuntimeConfig)
      (endpoint : EndpointAddr) (permit : Option ClusterRef)
      (waiting : before.stage = .waitingBreaker ref) (kept : KeepsClusters before.states states) :
      Moves before action
        { before with
          states := states
          ctx := { before.ctx with
            circuitBreakerPermit := permit
            upstreamEndpoint := some endpoint
            poolPermit := some ref }
          stage := .proxying
          attempts := Attempt.select endpoint before.attempts }
        none
  | fails (result : RequestContext × ProxyError) (flies : before.stage.inFlight = true)
      (spent : before.ctx.Charges result.1 ∨
        (result.1 = before.ctx ∧ (result.2.retry = true → action.asksFreely = true))) :
      Moves before action (before.fail result).1 (some result.2)
  | answers (status : StatusCode) (flies : before.stage.inFlight = true) :
      Moves before action
        { before with
          stage := .answered status
          attempts := Attempt.mark (500 ≤ status.value) before.attempts }
        none
  | ends (failed : Bool) (written : Option StatusCode) (states : List MaterializedRuntimeConfig)
      (recorded : List (EndpointAddr × UpstreamOutcome))
      (stops : EndsWith before.stage failed written) (kept : KeepsClusters before.states states)
      (silent : before.ctx.upstreamEndpoint = none → recorded = before.recorded)
      (records : ∀ endpoint ref, before.ctx.upstreamEndpoint = some endpoint →
        before.ctx.cluster = some ref →
        (clusterAt before.states ref).isSome = true →
        recorded = before.recorded ++ [(endpoint, RequestSystem.outcome failed written)]) :
      Moves before action
        { before with
          states := states
          recorded := recorded
          ctx := before.ctx.dropPermits
          stage := .closed }
        none

section

variable {before after : RequestSystem} {action : RequestAction} {output : Option ProxyError}

theorem receive_moves (state : MaterializedRuntimeConfig) (certificate : Option AlternativeNames)
    (inputs : FilterInputs) (action : RequestAction) (fresh : before.stage = .fresh) :
    Moves before action (before.receive state certificate inputs) none := by
  apply Moves.receives _ _ fresh (filterRequest_unattempted certificate _ state _ inputs)
  split
  · exact Or.inl rfl
  · exact Or.inr rfl
  · exact Or.inr rfl

private theorem retryRefusal_once {ctx : RequestContext} {now : Instant} {error : ProxyError}
    (raised : ctx.retryRefusal now = some error) : error.retry = false := by
  unfold RequestContext.retryRefusal at raised
  split at raised
  · cases raised
  · split at raised
    · split at raised
      · cases raised
        rfl
      · split at raised
        · cases raised
          rfl
        · cases raised
    · cases raised

private theorem beginAttempt_moves (now : Instant) (action : RequestAction)
    (starts : before.stage.startsAttempt = true) :
    Moves before action (before.beginAttempt now).1 (before.beginAttempt now).2 := by
  unfold RequestSystem.beginAttempt
  dsimp only
  split
  · exact .refusesAtOnce before.ctx _ starts (Or.inl rfl) rfl
  · rename_i name named
    split
    · exact .refusesAtOnce before.ctx _ starts (Or.inl rfl) rfl
    · rename_i index loaded
      split
      · exact .refusesAtOnce before.ctx _ starts (Or.inl rfl) rfl
      · rename_i cluster present
        split
        · rename_i error raised
          exact .refusesAtOnce before.ctx.beginning error starts (Or.inr rfl)
            (retryRefusal_once raised)
        · apply Moves.begins { state := index, name := name } starts
          · unfold RequestContext.cluster
            rw [named, loaded]
          · rw [present]
            rfl

private theorem poolAnswers_moves {ref : ClusterRef} (answer : PoolAnswer) (now : Instant)
    (action : RequestAction) (waiting : before.stage = .waitingPool ref) :
    Moves before action (before.poolAnswers ref answer now).1
      (before.poolAnswers ref answer now).2 := by
  have waits := waitsFor_waitingPool waiting
  have rejects : ∀ context, Moves before action
      (before.refuse (before.ctx.poolRejected context now).1
        (before.ctx.poolRejected context now).2).1
      (some (before.ctx.poolRejected context now).2) := by
    intro context
    apply Moves.refusesPermit ref before.states _ _ waits (fun _ present => present)
    rcases poolRejected_spent before.ctx context now with charged | kept
    · exact Or.inl charged
    · exact Or.inr ⟨kept.1, Or.inl kept.2⟩
  cases answer with
  | granted => exact .grants ref waiting
  | queueFull | queueTimeout => exact rejects _
  | closed =>
    exact .refusesPermit ref before.states before.ctx _ waits (fun _ present => present)
      (Or.inr ⟨rfl, Or.inl rfl⟩)

private theorem breakerAnswers_moves {ref : ClusterRef} {granted : Bool} {draw : Nat}
    {readings : Readings} (silent : action.stored = none)
    (waiting : before.stage = .waitingBreaker ref)
    (ran : before.breakerAnswers ref granted draw readings = some (after, output)) :
    Moves before action after output ∧ Touches before action after.states := by
  have waits := waitsFor_waitingBreaker waiting
  unfold RequestSystem.breakerAnswers at ran
  split at ran
  · cases ran
  · rename_i state found
    split at ran
    · cases ran
    · rename_i cluster present
      have touched := Touches.cluster ref.state state
        (upstreamPeer state.upstreamManager before.ctx.toRouterContext true draw readings).manager
        silent ⟨found, fun name => upstreamPeer_get_isSome _ true draw readings,
          fun _ => ⟨⟨ref, Or.inl waits, rfl⟩,
            fun name => upstreamPeer_get_of_ne true draw readings⟩⟩
      have kept := touched.keepsClusters
      split at ran
      · unfold RequestSystem.connect at ran
        dsimp only at ran
        split at ran
        · cases ran
          exact ⟨.refusesPermit ref _ _ _ waits kept (Or.inr ⟨rfl, Or.inr rfl⟩), touched⟩
        · split at ran
          · cases ran
            exact ⟨.refusesPeer ref _ _ _ _ waiting kept rfl, touched⟩
          · cases ran
            exact ⟨.connects ref _ _ _ waiting kept, touched⟩
      · split at ran
        · cases ran
          exact ⟨.refusesPermit ref before.states before.ctx _ waits (fun _ present => present)
            (Or.inr ⟨rfl, Or.inl rfl⟩), .nothing silent⟩
        · cases ran

private theorem responseFilter_moves (status : StatusCode) (now : Instant) (action : RequestAction)
    (flies : before.stage.inFlight = true) :
    Moves before action (before.responseFilter status now).1
      (before.responseFilter status now).2 := by
  unfold RequestSystem.responseFilter
  have spent := responseFilter_spent before.ctx before.method status now
  split
  · rename_i ctx error result
    rw [result] at spent
    apply Moves.fails (ctx, error) flies
    rcases spent with ⟨_, _, charges⟩ | ⟨kept, once⟩
    · exact Or.inl charges
    · refine Or.inr ⟨kept, ?_⟩
      intro asks
      rw [once error rfl] at asks
      cases asks
  · rename_i ctx result
    rw [result] at spent
    rcases spent with ⟨_, raised, _⟩ | ⟨kept, _⟩
    · cases raised
    · cases kept
      exact .answers status flies

private theorem logging_moves {failed : Bool} {written : Option StatusCode} (readings : Readings)
    (silent : action.stored = none) (stops : EndsWith before.stage failed written) :
    Moves before action (before.logging failed written readings) none ∧
      Touches before action (before.logging failed written readings).states := by
  -- Nothing is recorded when a cluster to record it with is missing.
  have closes : (∀ ref endpoint, before.ctx.cluster = some ref →
      before.ctx.upstreamEndpoint = some endpoint →
      clusterAt before.states ref = none) →
      Moves before action
        { before with ctx := before.ctx.dropPermits, stage := .closed } none ∧
        Touches before action before.states := by
    intro missing
    refine ⟨.ends failed written before.states before.recorded stops (fun _ present => present)
      (fun _ => rfl) ?_, .nothing silent⟩
    intro endpoint ref selected routed present
    rw [missing ref endpoint routed selected] at present
    cases present
  unfold RequestSystem.logging
  dsimp only
  split
  · rename_i ref endpoint routed selected
    split
    · rename_i missing
      apply closes
      intro other _ sameRef _
      cases routed.symm.trans sameRef
      unfold clusterAt
      rw [missing]
      rfl
    · rename_i state found
      split
      · rename_i missing
        apply closes
        intro other _ sameRef _
        cases routed.symm.trans sameRef
        unfold clusterAt
        rw [found]
        exact missing
      · have touched := Touches.cluster ref.state state
          (performOn state.upstreamManager ref.name readings
            (.recordOutcome endpoint (RequestSystem.outcome failed written)))
          silent ⟨found, fun name => performOn_get_isSome readings _, fun _ =>
            ⟨⟨ref, Or.inr routed, rfl⟩, fun name different => performOn_get_of_ne readings _
              fun same => different (same ▸ upstreamName_of_cluster routed)⟩⟩
        refine ⟨.ends failed written _ _ stops touched.keepsClusters ?_ ?_, touched⟩
        · intro absent
          rw [selected] at absent
          cases absent
        · intro other _ isSelected _ _
          cases selected.symm.trans isSelected
          rfl
  · rename_i unmatched
    apply closes
    intro ref endpoint routed selected
    exact absurd selected (unmatched ref endpoint routed)

private theorem beginAttempt_states (now : Instant) :
    (before.beginAttempt now).1.states = before.states := by
  unfold RequestSystem.beginAttempt
  dsimp only
  split
  · rfl
  · split
    · rfl
    · split
      · rfl
      · split <;> rfl

theorem responseFilter_states (status : StatusCode) (now : Instant) :
    (before.responseFilter status now).1.states = before.states := by
  unfold RequestSystem.responseFilter
  split <;> rfl

theorem advance_moves (ran : before.advance action = some (after, output)) :
    Moves before action after output ∧ Touches before action after.states := by
  cases action with
  | receive certificate inputs =>
    dsimp only [advance] at ran
    split at ran
    · rename_i fresh found
      cases ran
      exact ⟨receive_moves _ certificate inputs _ fresh, .nothing rfl⟩
    · cases ran
  | beginAttempt now =>
    dsimp only [advance] at ran
    split at ran
    · rename_i starts
      have moved := beginAttempt_moves now (.beginAttempt now) starts
      have same : (before.beginAttempt now).1.states = before.states := beginAttempt_states now
      rw [Option.some.inj ran] at moved same
      exact ⟨moved, same ▸ .nothing rfl⟩
    · cases ran
  | poolAnswers answer now =>
    dsimp only [advance] at ran
    split at ran
    · rename_i ref waiting
      have moved := poolAnswers_moves answer now (.poolAnswers answer now) waiting
      have same : (before.poolAnswers ref answer now).1.states = before.states := by
        cases answer <;> rfl
      rw [Option.some.inj ran] at moved same
      exact ⟨moved, same ▸ .nothing rfl⟩
    · cases ran
  | breakerAnswers =>
    dsimp only [advance] at ran
    split at ran
    · rename_i ref waiting
      exact breakerAnswers_moves rfl waiting ran
    · cases ran
  | failToConnect error now =>
    dsimp only [advance] at ran
    split at ran
    · rename_i flies
      cases ran
      exact ⟨.fails _ flies (failToConnect_spent before.ctx before.method error now),
        .nothing rfl⟩
    · cases ran
  | errorWhileProxy error clientReused now =>
    dsimp only [advance] at ran
    split at ran
    · rename_i flies
      cases ran
      exact ⟨.fails _ flies (errorWhileProxy_spent before.ctx before.method error clientReused
        before.retryBufferTruncated now), .nothing rfl⟩
    · cases ran
  | responseFilter status now =>
    dsimp only [advance] at ran
    split at ran
    · rename_i flies
      have moved := responseFilter_moves status now (.responseFilter status now) flies
      have same : (before.responseFilter status now).1.states = before.states :=
        responseFilter_states status now
      rw [Option.some.inj ran] at moved same
      exact ⟨moved, same ▸ .nothing rfl⟩
    · cases ran
  | truncateRetryBuffer =>
    cases ran
    exact ⟨.elsewhere before.states true fun _ present => present, .nothing rfl⟩
  | logging written readings =>
    dsimp only [advance] at ran
    split at ran
    · rename_i responded
      cases ran
      exact logging_moves readings rfl (Or.inl responded)
    · rename_i status answered
      split at ran
      · rename_i same
        cases ran
        exact logging_moves readings rfl (Or.inr (Or.inl ⟨status, answered, rfl, same⟩))
      · cases ran
    · rename_i retry refused
      cases ran
      exact logging_moves readings rfl (Or.inr (Or.inr ⟨⟨retry, Or.inl refused⟩, rfl⟩))
    · rename_i retry failed
      cases ran
      exact logging_moves readings rfl (Or.inr (Or.inr ⟨⟨retry, Or.inr failed⟩, rfl⟩))
    · cases ran
  | perform index name call readings =>
    dsimp only [advance] at ran
    split at ran
    · cases ran
    · rename_i state found
      cases ran
      have touched : Touches before (.perform index name call readings) _ :=
        .cluster index state (performOn state.upstreamManager name readings call) rfl
          ⟨found, fun other => performOn_get_isSome readings call, fun hook => (nomatch hook)⟩
      exact ⟨.elsewhere _ before.retryBufferTruncated touched.keepsClusters, touched⟩
  | store state =>
    cases ran
    exact ⟨.elsewhere _ before.retryBufferTruncated (append_keepsClusters before.states state),
      .stores state rfl⟩

abbrev RequestStep := Step RequestSystem RequestAction (Option ProxyError)

theorem requestStep_advance {step : RequestStep} (accepted : step.Accepted requestStep) :
    ∃ moved, step.before.advance step.label = some (moved, step.output) ∧
      step.after = { moved with asked := moved.asked + (asksRetry step.output).toNat } := by
  obtain ⟨before, action, after, output⟩ := step
  change requestStep before action = some (after, output) at accepted
  unfold requestStep at accepted
  split at accepted
  · cases accepted
  · rename_i moved raised ran
    cases accepted
    exact ⟨moved, ran, rfl⟩

theorem requestStep_moves {step : RequestStep} (accepted : step.Accepted requestStep) :
    ∃ moved, Moves step.before step.label moved step.output ∧
      step.after = { moved with asked := moved.asked + (asksRetry step.output).toNat } := by
  obtain ⟨moved, ran, same⟩ := requestStep_advance accepted
  exact ⟨moved, (advance_moves ran).1, same⟩

theorem requestStep_touches {step : RequestStep} (accepted : step.Accepted requestStep) :
    Touches step.before step.label step.after.states := by
  obtain ⟨moved, ran, same⟩ := requestStep_advance accepted
  rw [same]
  exact (advance_moves ran).2

end

end Pavis.Proxy
