/-
Retries over a whole request.

Every result that asks for a retry is to be paid for by the counter of the retry
context, and a request that may have reached the upstream is to be sent again only
when its method, its body and the reason allow it.
-/

import Pavis.Proxy.Lifecycle

namespace Pavis.Proxy

open ByteText Config Fallible LabelledRun State Upstream
open Routing (HttpMethod Request)

theorem RequestContext.beginning_retryCtx (ctx : RequestContext) :
    ctx.beginning.retryCtx = ctx.retryCtx := by
  unfold beginning
  split <;> rfl

theorem RequestContext.Retries.beginning {ctx : RequestContext} (retries : ctx.Retries) :
    ctx.beginning.Retries := by
  unfold RequestContext.beginning
  split <;> exact retries

section

variable {before after : RequestSystem} {action : RequestAction} {output : Option ProxyError}

theorem Moves.retries (moves : Moves before action after output) (retries : before.ctx.Retries) :
    after.ctx.Retries := by
  cases moves with
  | elsewhere | grants | refusesPeer | connects | answers | ends => exact retries
  | receives ctx stage fresh unattempted => exact unattempted.retries
  | begins => exact retries.beginning
  | refusesAtOnce ctx error starts kept =>
    rcases kept with rfl | rfl
    · exact retries
    · exact retries.beginning
  | refusesPermit ref states ctx error waiting kept spent =>
    rcases spent with ⟨_, charges⟩ | ⟨_, rfl | rfl⟩
    · exact charges.retries retries
    · exact retries
    · exact retries
  | fails result flies spent =>
    rcases spent with charges | ⟨same, _⟩
    · exact charges.retries retries
    · change result.1.Retries
      rw [same]
      exact retries

/-- There is at most one attempt more than results that asked for one, and not even
that many while the framework is asked. -/
structure Begun (system : RequestSystem) : Prop where
  fresh : system.stage = .fresh → system.attempts = []
  asking : system.stage.startsAttempt = true → system.attempts.length ≤ system.asked
  bounded : system.attempts.length ≤ system.asked + 1
  waiting : system.stage.waitsFor.isSome = true → system.attempts ≠ []

theorem Attempt.length_mark (failed : Bool) (attempts : List Attempt) :
    (mark failed attempts).length = attempts.length := by
  cases attempts with
  | nil | cons => rfl

theorem Attempt.length_select (endpoint : EndpointAddr) (attempts : List Attempt) :
    (select endpoint attempts).length = attempts.length := by
  cases attempts with
  | nil | cons => rfl

theorem Begun.of_error {system : RequestSystem} {asks : Bool}
    (ended : system.stage = .refused asks ∨ system.stage = .failed asks)
    (bounded : system.attempts.length ≤ system.asked + 1) :
    Begun { system with asked := system.asked + asks.toNat } := by
  refine ⟨?_, ?_, ?_, ?_⟩
  · intro fresh
    rcases ended with refused | failed
    · cases refused.symm.trans fresh
    · cases failed.symm.trans fresh
  · intro starts
    cases asks with
    | true => exact bounded
    | false =>
      rcases ended with refused | failed
      · change system.stage.startsAttempt = true at starts
        rw [refused] at starts
        cases starts
      · change system.stage.startsAttempt = true at starts
        rw [failed] at starts
        cases starts
  · change system.attempts.length ≤ system.asked + asks.toNat + 1
    omega
  · intro waits
    change system.stage.waitsFor.isSome = true at waits
    rcases ended with refused | failed
    · rw [refused] at waits
      cases waits
    · rw [failed] at waits
      cases waits

theorem Moves.begun (moves : Moves before action after output) (begun : Begun before) :
    Begun { after with asked := after.asked + (asksRetry output).toNat } := by
  cases moves with
  | elsewhere =>
    exact ⟨begun.fresh, begun.asking, begun.bounded, begun.waiting⟩
  | receives ctx stage fresh unattempted leads =>
    have unstarted := begun.fresh fresh
    refine ⟨fun _ => unstarted, ?_, begun.bounded, ?_⟩
    · intro _
      change before.attempts.length ≤ before.asked
      rw [unstarted]
      exact Nat.zero_le _
    · intro waits
      rcases leads with rfl | rfl <;> cases waits
  | begins ref starts =>
    have asked := begun.asking starts
    refine ⟨fun fresh => (nomatch fresh), fun again => (nomatch again), ?_,
      fun _ => List.cons_ne_nil _ _⟩
    exact Nat.succ_le_succ asked
  | refusesAtOnce ctx error starts =>
    have asked := begun.asking starts
    refine Begun.of_error (Or.inl rfl) ?_
    exact Nat.succ_le_succ asked
  | grants ref waiting =>
    refine ⟨fun fresh => (nomatch fresh), fun again => (nomatch again), begun.bounded, ?_⟩
    intro _
    exact begun.waiting (congrArg Option.isSome (waitsFor_waitingPool waiting))
  | refusesPermit =>
    refine Begun.of_error (Or.inl rfl) ?_
    change (Attempt.mark true before.attempts).length ≤ before.asked + 1
    rw [Attempt.length_mark]
    exact begun.bounded
  | refusesPeer ref states endpoint =>
    refine Begun.of_error (Or.inl rfl) ?_
    change (Attempt.mark true (Attempt.select endpoint before.attempts)).length ≤
      before.asked + 1
    rw [Attempt.length_mark, Attempt.length_select]
    exact begun.bounded
  | connects ref states endpoint =>
    refine ⟨fun fresh => (nomatch fresh), fun again => (nomatch again), ?_,
      fun waits => (nomatch waits)⟩
    change (Attempt.select endpoint before.attempts).length ≤ before.asked + 1
    rw [Attempt.length_select]
    exact begun.bounded
  | fails =>
    refine Begun.of_error (Or.inr rfl) ?_
    change (Attempt.mark true before.attempts).length ≤ before.asked + 1
    rw [Attempt.length_mark]
    exact begun.bounded
  | answers =>
    refine ⟨fun fresh => (nomatch fresh), fun again => (nomatch again), ?_,
      fun waits => (nomatch waits)⟩
    change (Attempt.mark _ before.attempts).length ≤ before.asked + 1
    rw [Attempt.length_mark]
    exact begun.bounded
  | ends =>
    exact ⟨fun fresh => (nomatch fresh), fun again => (nomatch again), begun.bounded,
      fun waits => (nomatch waits)⟩

/-- The attempts that are past waiting for their permits. -/
def RequestSystem.tried (system : RequestSystem) : Nat :=
  system.attempts.length - system.stage.waitsFor.isSome.toNat

def sendsUpstream (step : Step RequestSystem RequestAction (Option ProxyError)) : Bool :=
  step.after.stage == .proxying && step.before.stage != .proxying

end

/-! ### Paying for retries -/

namespace RequestContext

def spent (ctx : RequestContext) : Nat :=
  match ctx.retryCtx with
  | none => 0
  | some retryCtx => retryCtx.attempt - 1

def extraAttempts (ctx : RequestContext) : Nat :=
  match ctx.retryPolicy, ctx.retryCtx with
  | .enabled settings, some _ => settings.maxAttempts.value - 1
  | _, _ => 0

private theorem spent_beginning (ctx : RequestContext) : ctx.beginning.spent = ctx.spent := by
  unfold spent
  rw [beginning_retryCtx]

theorem Charges.spent_eq {ctx after : RequestContext} (charges : ctx.Charges after)
    (retries : ctx.Retries) : after.spent = ctx.spent + 1 := by
  obtain ⟨retryCtx, now, present, more, rfl⟩ := charges
  obtain ⟨settings, body, policy, counting, buffered⟩ := retries retryCtx present
  have first := counting.first
  unfold spent charge
  rw [present]
  dsimp only [Option.map_some]
  rw [counting.attempt_nextAttempt more]
  omega

theorem Retries.spent_le {ctx : RequestContext} (retries : ctx.Retries) :
    ctx.spent ≤ ctx.extraAttempts := by
  unfold spent
  split
  · exact Nat.zero_le _
  · rename_i retryCtx present
    obtain ⟨settings, body, policy, counting, buffered⟩ := retries retryCtx present
    have last := counting.last
    rw [counting.limit] at last
    unfold extraAttempts
    rw [policy, present]
    exact Nat.sub_le_sub_right last 1

end RequestContext

structure Paid (system : RequestSystem) : Prop where
  retries : system.ctx.Retries
  fresh : system.stage = .fresh → system.asked = 0
  paid : system.asked ≤ system.ctx.spent

section

variable {before after : RequestSystem} {action : RequestAction} {output : Option ProxyError}
  (moves : Moves before action after output)

include moves

theorem Moves.fresh_before (fresh : after.stage = .fresh) : before.stage = .fresh := by
  cases moves with
  | elsewhere => exact fresh
  | receives ctx stage started => exact started
  | _ => cases fresh

theorem Moves.silent_of_fresh (fresh : before.stage = .fresh) : output = none := by
  cases moves with
  | refusesAtOnce ctx error starts =>
    rw [fresh] at starts
    cases starts
  | refusesPermit ref states ctx error waiting
  | refusesPeer ref states endpoint permit error waiting =>
    rw [fresh] at waiting
    cases waiting
  | fails result flies =>
    rw [fresh] at flies
    cases flies
  | _ => rfl

theorem Moves.asked_eq : after.asked = before.asked := by
  cases moves <;> rfl

theorem Moves.spent_grows (counted : action.asksFreely = false) (started : before.stage ≠ .fresh)
    (retries : before.ctx.Retries) :
    before.ctx.spent + (asksRetry output).toNat ≤ after.ctx.spent := by
  cases moves with
  | elsewhere | grants | connects | answers | ends => exact Nat.le_refl _
  | receives ctx stage fresh => exact absurd fresh started
  | begins => exact Nat.le_of_eq before.ctx.spent_beginning.symm
  | refusesAtOnce ctx error starts kept once =>
    change before.ctx.spent + error.retry.toNat ≤ ctx.spent
    rw [once]
    rcases kept with rfl | rfl
    · exact Nat.le_refl _
    · exact Nat.le_of_eq before.ctx.spent_beginning.symm
  | refusesPermit ref states ctx error waiting kept spent =>
    change before.ctx.spent + error.retry.toNat ≤ ctx.spent
    rcases spent with ⟨asks, charges⟩ | ⟨once, rfl | rfl⟩
    · rw [asks, charges.spent_eq retries]
      exact Nat.le_refl _
    · rw [once]
      exact Nat.le_refl _
    · rw [once]
      exact Nat.le_refl _
  | refusesPeer ref states endpoint permit error waiting kept once =>
    change before.ctx.spent + error.retry.toNat ≤ before.ctx.spent
    rw [once]
    exact Nat.le_refl _
  | fails result flies spent =>
    change before.ctx.spent + result.2.retry.toNat ≤ result.1.spent
    rcases spent with charges | ⟨same, freely⟩
    · rw [charges.spent_eq retries]
      have most := Bool.toNat_le result.2.retry
      omega
    · rw [same]
      cases asks : result.2.retry with
      | false => exact Nat.le_refl _
      | true =>
        rw [freely asks] at counted
        cases counted

theorem Moves.paid (counted : action.asksFreely = false) (paid : Paid before) :
    Paid { after with asked := after.asked + (asksRetry output).toNat } := by
  refine ⟨moves.retries paid.retries, ?_, ?_⟩
  · intro fresh
    have started := moves.fresh_before fresh
    rw [moves.silent_of_fresh started]
    exact moves.asked_eq.trans (paid.fresh started)
  · change after.asked + (asksRetry output).toNat ≤ after.ctx.spent
    rw [moves.asked_eq]
    by_cases fresh : before.stage = .fresh
    · rw [moves.silent_of_fresh fresh, paid.fresh fresh]
      exact Nat.zero_le _
    · have grown := moves.spent_grows counted fresh paid.retries
      have covered := paid.paid
      omega

theorem Moves.tried_grows (begun : Begun before) :
    before.tried + (after.stage == .proxying && before.stage != .proxying).toNat ≤
      after.tried := by
  unfold RequestSystem.tried
  cases moves with
  | elsewhere =>
    change _ + (before.stage == .proxying && before.stage != .proxying).toNat ≤
      before.attempts.length - before.stage.waitsFor.isSome.toNat
    cases before.stage <;> exact Nat.le_refl _
  | receives ctx stage fresh unattempted leads =>
    rw [fresh]
    rcases leads with rfl | rfl <;> exact Nat.le_refl _
  | begins ref starts =>
    rw [waitsFor_of_startsAttempt starts]
    exact Nat.le_refl _
  | refusesAtOnce ctx error starts =>
    rw [waitsFor_of_startsAttempt starts]
    exact Nat.le_succ _
  | grants ref waiting =>
    rw [waiting]
    exact Nat.le_refl _
  | refusesPermit | fails =>
    change _ + 0 ≤ (Attempt.mark true before.attempts).length
    rw [Attempt.length_mark]
    exact Nat.sub_le _ _
  | refusesPeer ref states endpoint =>
    change _ + 0 ≤ (Attempt.mark true (Attempt.select endpoint before.attempts)).length
    rw [Attempt.length_mark, Attempt.length_select]
    exact Nat.sub_le _ _
  | connects ref states endpoint permit waiting =>
    have waits := congrArg Option.isSome (waitsFor_waitingBreaker waiting)
    have positive := List.length_pos_of_ne_nil (begun.waiting waits)
    rw [waiting]
    change before.attempts.length - 1 + 1 ≤ (Attempt.select endpoint before.attempts).length
    rw [Attempt.length_select]
    omega
  | answers =>
    change _ + 0 ≤ (Attempt.mark _ before.attempts).length
    rw [Attempt.length_mark]
    exact Nat.sub_le _ _
  | ends => exact Nat.sub_le _ _

end

private theorem begun_start (state : MaterializedRuntimeConfig) (request : Request) :
    Begun (RequestSystem.start state request) :=
  ⟨fun _ => rfl, fun starts => (nomatch starts), Nat.zero_le _, fun waits => (nomatch waits)⟩

private theorem paid_start (state : MaterializedRuntimeConfig) (request : Request) :
    Paid (RequestSystem.start state request) :=
  ⟨fun _ present => (nomatch present), fun _ => rfl, Nat.zero_le _⟩

theorem Begun.step (step : RequestStep)
    (accepted : step.Accepted requestStep) (begun : Begun step.before) : Begun step.after := by
  obtain ⟨moved, moves, same⟩ := requestStep_moves accepted
  rw [same]
  exact moves.begun begun

/-- A request with attempts only for counted results has no more of them than its
policy allows. -/
theorem attempts_within_policy (state : MaterializedRuntimeConfig) (request : Request)
    {steps : List (Step RequestSystem RequestAction (Option ProxyError))}
    (isRun : IsRun requestStep (RequestSystem.start state request) steps)
    (counted : ∀ step ∈ steps, step.label.asksFreely = false) :
    steps.countP (fun step => asksRetry step.output) ≤
        (final (RequestSystem.start state request) steps).ctx.extraAttempts ∧
      steps.countP sendsUpstream ≤
        (final (RequestSystem.start state request) steps).ctx.extraAttempts + 1 := by
  have asks := isRun.countP_le (fun _ => True) trivial (fun _ _ _ => trivial)
    (fun step => asksRetry step.output) RequestSystem.asked (fun _ => 0) (by
      intro step _ accepted _
      obtain ⟨moved, moves, same⟩ := requestStep_moves accepted
      rw [same]
      exact Nat.le_of_eq (congrArg (· + (asksRetry step.output).toNat) moves.asked_eq.symm))
  have sends := isRun.countP_le Begun (begun_start state request) Begun.step sendsUpstream
    RequestSystem.tried (fun _ => 0) (by
      intro step _ accepted begun
      obtain ⟨moved, moves, same⟩ := requestStep_moves accepted
      unfold sendsUpstream
      rw [same]
      exact moves.tried_grows begun)
  have begun := isRun.invariant_visited Begun (begun_start state request) Begun.step
    (visits_final _ steps)
  have paid := isRun.guarded_visited Paid (paid_start state request)
    (fun step => step.label.asksFreely = false) counted (by
      intro step accepted guard paid
      obtain ⟨moved, moves, same⟩ := requestStep_moves accepted
      rw [same]
      exact moves.paid guard paid) (visits_final _ steps)
  have allowed := paid.retries.spent_le
  have covered := paid.paid
  have bounded := begun.bounded
  change 0 + _ + 0 ≤ _ at asks
  change 0 + _ + 0 ≤ _ at sends
  unfold RequestSystem.tried at sends
  constructor <;> omega

def apiUpstream (endpoints : List Endpoint) : Upstream :=
  UpstreamBuilder.build (.constant 1) (literal "api") endpoints

def firstEndpoint : Endpoint :=
  { address := .ip (.v4 10 0 0 1) (.constant 80), weight := .constant 1 }

def retryingRoute (retry : RetryPolicy) : Route :=
  { matcher := { path := .prefixed (literal "/"), method := .any, headers := .none }
    policy := { forwardTo (literal "api") with retry := retry } }

def retryingState (retry : RetryPolicy) (upstream : Upstream) :
    Except BuildError MaterializedRuntimeConfig :=
  plainState [{ host := literal "example.com", paths := [retryingRoute retry] }] [upstream]

def twoAttempts : RetrySettings :=
  { maxAttempts := .constant 2
    perTry := .inherit
    retryableReasons := [.connectError, .readTimeout]
    retryableStatusCodes := none
    backoff := .fixed 0
    retryNonIdempotent := false
    failOnNonReplayableRetry := false
    maxRequestBodyBufferBytes := 4 }

def obtainPeer : List RequestAction :=
  [.beginAttempt 0, .poolAnswers .granted 0, .breakerAnswers true 0 (.at 0)]

def plainError (etype : ErrorType) : ProxyError :=
  { etype := etype, context := none, retry := false }

def reusedFails : RequestAction :=
  .errorWhileProxy (plainError (.other (literal "ReadError"))) true 0

def connectFails : RequestAction :=
  .failToConnect (plainError (.other (literal "ConnectError"))) 0

/-- The results that asked for a retry, the times the request was sent, and the
attempts its policy allows after the first. -/
def retryCounts (state : MaterializedRuntimeConfig) (actions : List RequestAction) :
    Nat × Nat × Nat :=
  let steps := trace requestStep (RequestSystem.start state plainRequest) actions
  (steps.countP fun step => asksRetry step.output, steps.countP sendsUpstream,
    (final (RequestSystem.start state plainRequest) steps).ctx.extraAttempts)

def reusedTwice : List RequestAction :=
  .receive none plainInputs :: obtainPeer ++ reusedFails :: obtainPeer ++ [reusedFails]

def connectFailsTwice : List RequestAction :=
  .receive none plainInputs :: obtainPeer ++ connectFails :: obtainPeer ++ [connectFails]

/-- A request without a retry policy is sent twice and could be sent again. -/
theorem reused_connections_uncounted :
    (retryingState .disabled (apiUpstream [firstEndpoint])).map
        (fun state => retryCounts state reusedTwice) =
      .ok (2, 2, 0) := by
  decide +kernel

theorem attempts_within_policy_connectFails :
    ∃ state, retryingState (.enabled twoAttempts) (apiUpstream [firstEndpoint]) = .ok state ∧
      retryCounts state connectFailsTwice = (1, 2, 1) ∧
      (retryCounts state connectFailsTwice).1 ≤ (retryCounts state connectFailsTwice).2.2 ∧
      (retryCounts state connectFailsTwice).2.1 ≤
        (retryCounts state connectFailsTwice).2.2 + 1 := by
  have evaluated : (retryingState (.enabled twoAttempts) (apiUpstream [firstEndpoint])).map
      (fun state => retryCounts state connectFailsTwice) = .ok (1, 2, 1) := by
    decide +kernel
  obtain ⟨state, built, counts⟩ := exists_of_map_eq_ok evaluated
  refine ⟨state, built, counts, ?_⟩
  apply attempts_within_policy state plainRequest (trace_isRun requestStep _ connectFailsTwice)
  intro step member
  have every : ∀ action ∈ connectFailsTwice, action.asksFreely = false := by
    simp [connectFailsTwice, obtainPeer, connectFails, plainError, RequestAction.asksFreely]
  exact every step.label (label_of_mem_trace member)

/-! ### Sending a request again -/

/-- The reason a hook of an attempt in flight acts on. -/
def RequestAction.replayReason : RequestAction → Option RetryReason
  | .errorWhileProxy error _ _ => some (RequestContext.proxyReason error.etype)
  | .responseFilter _ _ => some .statusCode
  | _ => none

/-- The method, the body and the reason allow that the request is sent again. -/
def SafeReplay (system : RequestSystem) (reason : RetryReason) : Prop :=
  ∃ settings body, system.ctx.retryPolicy = .enabled settings ∧
    (MethodIdempotency.fromMethod system.method = .idempotent ∨
      settings.retryNonIdempotent = true) ∧
    system.ctx.bufferedBody = some body ∧ body.canReplay = true ∧
    system.retryBufferTruncated = false ∧ reason ∈ settings.retryableReasons

/-- What the hooks leave unchecked. -/
def RequestAction.Unchecked (system : RequestSystem) : RequestAction → Prop
  | .errorWhileProxy _ _ _ => system.ctx.canReplay = true
  | .responseFilter _ _ => system.retryBufferTruncated = false
  | _ => True

section

variable {ctx : RequestContext} {method : HttpMethod} {now : Instant}

private theorem errorWhileProxy_asks {error : ProxyError} {truncated : Bool} (retries : ctx.Retries)
    (asks : (ctx.errorWhileProxy method error false truncated now).2.retry = true) :
    ∃ settings body, ctx.retryPolicy = .enabled settings ∧
      (MethodIdempotency.fromMethod method = .idempotent ∨
        settings.retryNonIdempotent = true) ∧
      ctx.bufferedBody = some body ∧ truncated = false ∧
      RequestContext.proxyReason error.etype ∈ settings.retryableReasons := by
  unfold RequestContext.errorWhileProxy at asks
  rw [if_neg Bool.false_ne_true] at asks
  split at asks
  · cases asks
  · rename_i retryCtx present
    obtain ⟨settings, body, policy, counting, buffered⟩ := retries retryCtx present
    split at asks
    · rename_i allowed
      rw [Bool.and_eq_true, Bool.and_eq_true] at allowed
      have whole : truncated = false := by
        cases truncated with
        | false => rfl
        | true => cases asks
      exact ⟨settings, body, policy, (counting.isMethodAllowed_iff method).mp allowed.1.1,
        buffered, whole, (counting.isRetryable_iff _).mp allowed.1.2⟩
    · cases asks

private theorem responseFilter_asks {status : StatusCode} (retries : ctx.Retries)
    (asks : asksRetry (ctx.responseFilter method status now).2 = true) :
    ∃ settings body, ctx.retryPolicy = .enabled settings ∧
      (MethodIdempotency.fromMethod method = .idempotent ∨
        settings.retryNonIdempotent = true) ∧
      ctx.bufferedBody = some body ∧ body.canReplay = true ∧
      .statusCode ∈ settings.retryableReasons := by
  unfold RequestContext.responseFilter at asks
  split at asks
  · cases asks
  · rename_i retryCtx present
    obtain ⟨settings, body, policy, counting, buffered⟩ := retries retryCtx present
    split at asks
    · rename_i allowed
      rw [Bool.and_eq_true, Bool.and_eq_true] at allowed
      split at asks
      · rename_i replayable
        unfold RequestContext.canReplay at replayable
        rw [buffered] at replayable
        exact ⟨settings, body, policy, (counting.isMethodAllowed_iff method).mp allowed.1.1,
          buffered, replayable, counting.reason_of_status allowed.1.2⟩
      · split at asks <;> cases asks
    · cases asks

end

private theorem requestStep_errorWhileProxy {before after : RequestSystem} {error : ProxyError}
    {clientReused : Bool} {now : Instant} {output : Option ProxyError}
    (accepted : requestStep before (.errorWhileProxy error clientReused now) =
      some (after, output)) :
    output = some (before.ctx.errorWhileProxy before.method error clientReused
      before.retryBufferTruncated now).2 := by
  unfold requestStep RequestSystem.advance at accepted
  dsimp only at accepted
  split at accepted
  · cases accepted
  · rename_i moved raised ran
    cases accepted
    split at ran
    · cases ran
      rfl
    · cases ran

private theorem requestStep_responseFilter {before after : RequestSystem} {status : StatusCode}
    {now : Instant} {output : Option ProxyError}
    (accepted : requestStep before (.responseFilter status now) = some (after, output)) :
    output = (before.ctx.responseFilter before.method status now).2 := by
  unfold requestStep RequestSystem.advance at accepted
  dsimp only at accepted
  split at accepted
  · cases accepted
  · rename_i moved raised ran
    cases accepted
    split at ran
    · unfold RequestSystem.responseFilter at ran
      split at ran
      all_goals
        rename_i result
        cases ran
        rw [result]
    · cases ran

private theorem retries_before {state : MaterializedRuntimeConfig} {request : Request}
    {steps : List RequestStep} (isRun : IsRun requestStep (RequestSystem.start state request) steps)
    {step : RequestStep} (member : step ∈ steps) :
    step.Accepted requestStep ∧ step.before.ctx.Retries := by
  obtain ⟨index, found⟩ := List.getElem?_of_mem member
  refine ⟨isRun.accepted_at found, ?_⟩
  apply isRun.invariant_before (fun system => system.ctx.Retries) _ _ found
  · intro retryCtx present
    cases present
  · intro step accepted retries
    obtain ⟨moved, moves, same⟩ := requestStep_moves accepted
    rw [same]
    exact moves.retries retries

/-- On a connection that was used before, an error always asks for the request to be
sent again. On a fresh one the hooks ask as far as it is safe, but for the body that
was read ahead, which `error_while_proxy` does not look at, and the buffer of the
framework, which `response_filter` does not. -/
theorem replays_safe_iff (state : MaterializedRuntimeConfig) (request : Request)
    {steps : List (Step RequestSystem RequestAction (Option ProxyError))}
    (isRun : IsRun requestStep (RequestSystem.start state request) steps) :
    ∀ step ∈ steps, ∀ reason, step.label.replayReason = some reason →
      (step.label.asksFreely = true → asksRetry step.output = true) ∧
        (step.label.asksFreely = false → asksRetry step.output = true →
          (SafeReplay step.before reason ↔ step.label.Unchecked step.before)) := by
  intro step member reason acts
  obtain ⟨accepted, retries⟩ := retries_before isRun member
  obtain ⟨before, action, after, output⟩ := step
  change requestStep before action = some (after, output) at accepted
  cases action with
  | errorWhileProxy error clientReused =>
    cases acts
    dsimp only
    rw [requestStep_errorWhileProxy accepted]
    cases clientReused with
    | true => exact ⟨fun _ => rfl, fun fresh => (nomatch fresh)⟩
    | false =>
      refine ⟨fun reused => (nomatch reused), ?_⟩
      intro _ asks
      obtain ⟨settings, body, policy, method, buffered, whole, listed⟩ :=
        errorWhileProxy_asks retries asks
      change before.ctx.bufferedBody = some body at buffered
      change _ ↔ before.ctx.canReplay = true
      unfold RequestContext.canReplay
      rw [buffered]
      constructor
      · rintro ⟨_, other, _, _, same, replayable, _⟩
        cases buffered.symm.trans same
        exact replayable
      · intro replayable
        exact ⟨settings, body, policy, method, buffered, replayable, whole, listed⟩
  | responseFilter =>
    cases acts
    refine ⟨fun reused => (nomatch reused), ?_⟩
    intro _ asks
    rw [requestStep_responseFilter accepted] at asks
    obtain ⟨settings, body, policy, method, buffered, replayable, listed⟩ :=
      responseFilter_asks retries asks
    constructor
    · rintro ⟨_, _, _, _, _, _, whole, _⟩
      exact whole
    · intro whole
      exact ⟨settings, body, policy, method, buffered, replayable, whole, listed⟩
  | _ => cases acts

def postRequest : Request := { plainRequest with method := literal "POST" }

def postReused : List RequestAction := .receive none plainInputs :: obtainPeer ++ [reusedFails]

def longBodyTimesOut : List RequestAction :=
  .receive none { plainInputs with chunks := [(literal "hello", true)] } ::
    obtainPeer ++ [.errorWhileProxy (plainError .readTimedout) false 0]

structure ReplayFacts where
  reason : Option RetryReason
  asks : Bool
  policy : RetryPolicy
  idempotency : MethodIdempotency
  replayable : Bool
  deriving DecidableEq

def lastReplay (request : Request) (actions : List RequestAction)
    (state : MaterializedRuntimeConfig) : Option ReplayFacts :=
  (trace requestStep (RequestSystem.start state request) actions).getLast?.map fun step =>
    { reason := step.label.replayReason
      asks := asksRetry step.output
      policy := step.before.ctx.retryPolicy
      idempotency := MethodIdempotency.fromMethod step.before.method
      replayable := step.before.ctx.canReplay }

theorem lastReplay_eq_some {request : Request} {actions : List RequestAction}
    {state : MaterializedRuntimeConfig} {facts : ReplayFacts}
    (last : lastReplay request actions state = some facts) :
    ∃ step ∈ trace requestStep (RequestSystem.start state request) actions,
      step.label.replayReason = facts.reason ∧ asksRetry step.output = facts.asks ∧
      step.before.ctx.retryPolicy = facts.policy ∧
      MethodIdempotency.fromMethod step.before.method = facts.idempotency ∧
      step.before.ctx.canReplay = facts.replayable := by
  obtain ⟨step, found, rfl⟩ := Option.map_eq_some_iff.mp last
  exact ⟨step, List.mem_of_getLast? found, rfl, rfl, rfl, rfl, rfl⟩

/-- A POST is sent again on the strength of its connection, and a GET without the
part of its body that was not read ahead. -/
theorem unsafe_replays_asked :
    ∃ state, retryingState (.enabled twoAttempts) (apiUpstream [firstEndpoint]) = .ok state ∧
      (∃ step ∈ trace requestStep (RequestSystem.start state postRequest) postReused,
        step.label.replayReason = some .statusCode ∧ asksRetry step.output = true ∧
          ¬ SafeReplay step.before .statusCode) ∧
      ∃ step ∈ trace requestStep (RequestSystem.start state plainRequest) longBodyTimesOut,
        step.label.replayReason = some .readTimeout ∧ asksRetry step.output = true ∧
          ¬ SafeReplay step.before .readTimeout := by
  have posted : (retryingState (.enabled twoAttempts) (apiUpstream [firstEndpoint])).map
      (lastReplay postRequest postReused) =
        .ok (some ⟨some .statusCode, true, .enabled twoAttempts, .nonIdempotent, true⟩) := by
    decide +kernel
  have timedOut : (retryingState (.enabled twoAttempts) (apiUpstream [firstEndpoint])).map
      (lastReplay plainRequest longBodyTimesOut) =
        .ok (some ⟨some .readTimeout, true, .enabled twoAttempts, .idempotent, false⟩) := by
    decide +kernel
  obtain ⟨state, built, lastPost⟩ := exists_of_map_eq_ok posted
  obtain ⟨_, rebuilt, lastTimeout⟩ := exists_of_map_eq_ok timedOut
  cases built.symm.trans rebuilt
  refine ⟨state, built, ?_, ?_⟩
  · obtain ⟨step, member, reason, asks, policy, method, _⟩ := lastReplay_eq_some lastPost
    refine ⟨step, member, reason, asks, ?_⟩
    rintro ⟨settings, body, enabled, idempotent | allowed, _⟩
    · cases method.symm.trans idempotent
    · cases policy.symm.trans enabled
      cases allowed
  · obtain ⟨step, member, reason, asks, _, _, replayable⟩ := lastReplay_eq_some lastTimeout
    refine ⟨step, member, reason, asks, ?_⟩
    rintro ⟨settings, body, _, _, buffered, whole, _⟩
    unfold RequestContext.canReplay at replayable
    rw [buffered] at replayable
    cases whole.symm.trans replayable

def shortBodyTimesOut : List RequestAction :=
  .receive none { plainInputs with chunks := [(literal "hi", true)] } ::
    obtainPeer ++ [.errorWhileProxy (plainError .readTimedout) false 0]

theorem replays_safe_iff_shortBody :
    ∃ state, retryingState (.enabled twoAttempts) (apiUpstream [firstEndpoint]) = .ok state ∧
      ∃ step ∈ trace requestStep (RequestSystem.start state plainRequest) shortBodyTimesOut,
        step.label.replayReason = some .readTimeout ∧ asksRetry step.output = true ∧
          SafeReplay step.before .readTimeout := by
  have timedOut : (retryingState (.enabled twoAttempts) (apiUpstream [firstEndpoint])).map
      (lastReplay plainRequest shortBodyTimesOut) =
        .ok (some ⟨some .readTimeout, true, .enabled twoAttempts, .idempotent, true⟩) := by
    decide +kernel
  obtain ⟨state, built, lastTimeout⟩ := exists_of_map_eq_ok timedOut
  obtain ⟨step, member, reason, asks, _, _, replayable⟩ := lastReplay_eq_some lastTimeout
  refine ⟨state, built, step, member, reason, asks, ?_⟩
  have law := replays_safe_iff state plainRequest
    (trace_isRun requestStep _ shortBodyTimesOut) step member .readTimeout reason
  have last : step.label = .errorWhileProxy (plainError .readTimedout) false 0 := by
    have listed := label_of_mem_trace member
    simp only [shortBodyTimesOut, obtainPeer, List.cons_append, List.nil_append,
      List.mem_cons, List.not_mem_nil, or_false] at listed
    rcases listed with label | label | label | label | label
    case inr.inr.inr.inr => exact label
    all_goals
      rw [label] at reason
      cases reason
  rw [last] at law
  exact (law.2 rfl asks).mpr replayable

end Pavis.Proxy
