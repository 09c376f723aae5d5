/-
The configuration agent's state machine.

One tick consumes an event and returns the effects to perform. The random draw behind
the backoff jitter is an argument of the tick, so a run is a function of its inputs.
-/

import Mathlib.Algebra.Group.Nat.Defs
import Pavis.Library.ByteText

namespace Pavis.Agent

open ByteText

/-- Nanoseconds on the monotonic clock. -/
abbrev Instant := Nat

/-- Nanoseconds. -/
abbrev Duration := Nat

def nanosPerMilli : Nat := 1000000

def Duration.fromMillis (millis : Nat) : Duration := millis * nanosPerMilli

def Duration.asMillis (duration : Duration) : Nat := duration / nanosPerMilli

/-- The longest duration, `u64::MAX` seconds and 999 999 999 nanoseconds. -/
def Duration.maximum : Duration := (2 ^ 64 - 1) * 1000000000 + 999999999

def Duration.saturatingMul (duration : Duration) (factor : Nat) : Duration :=
  min (duration * factor) maximum

def u32Max : Nat := 2 ^ 32 - 1

def waitMs : Nat := 30000

def rejectTtl : Duration := Duration.fromMillis (10 * 60 * 1000)

def backoffBase : Duration := Duration.fromMillis 250

def backoffCap : Duration := Duration.fromMillis 5000

def backoffJitterPct : Nat := 10

/-- The argument `draw` is the value of `rand::random::<u128>()`. -/
def backoffDelay (attempt draw : Nat) : Duration :=
  let factor := 2 ^ min attempt 10
  let exp := Duration.saturatingMul backoffBase factor
  let capped := if exp > backoffCap then backoffCap else exp
  let jitterRange := Duration.asMillis capped * backoffJitterPct / 100
  if jitterRange = 0 then capped
  else
    let offset := draw % (2 * jitterRange + 1)
    if jitterRange ≤ offset then capped + Duration.fromMillis (offset - jitterRange)
    else capped - Duration.fromMillis (jitterRange - offset)

/-- A non-zero `u64`. -/
structure ConfigVersion where
  value : Nat
  nonzero : value ≠ 0
  bounded : value < 2 ^ 64
  deriving DecidableEq

structure Context where
  lastAppliedEtag : Option Text
  lastRejectedEtag : Option Text
  lastRejectedUntil : Option Instant
  backoffAttempt : Nat
  observedVersion : Option ConfigVersion
  forceUnconditionalCount : Nat
  deriving DecidableEq

def Context.new : Context :=
  { lastAppliedEtag := none
    lastRejectedEtag := none
    lastRejectedUntil := none
    backoffAttempt := 0
    observedVersion := none
    forceUnconditionalCount := 0 }

def Context.clearRejectedIfExpired (ctx : Context) (now : Instant) : Context :=
  match ctx.lastRejectedUntil with
  | some deadline =>
    if deadline ≤ now then { ctx with lastRejectedEtag := none, lastRejectedUntil := none }
    else ctx
  | none => ctx

/-- In forced unconditional mode one unit of the counter is spent and no etag
is returned; otherwise a remembered rejection wins over the applied etag. -/
def Context.conditionalEtag (ctx : Context) (now : Instant) : Context × Option Text :=
  let ctx := ctx.clearRejectedIfExpired now
  if ctx.forceUnconditionalCount > 0 then
    ({ ctx with forceUnconditionalCount := ctx.forceUnconditionalCount - 1 }, none)
  else
    match ctx.lastRejectedEtag with
    | some etag => (ctx, some etag)
    | none => (ctx, ctx.lastAppliedEtag)

def Context.setRejected (ctx : Context) (etag : Text) (now : Instant) : Context :=
  { ctx with lastRejectedEtag := some etag, lastRejectedUntil := some (now + rejectTtl) }

def Context.clearConditionalState (ctx : Context) : Context :=
  { ctx with
    lastAppliedEtag := none
    lastRejectedEtag := none
    lastRejectedUntil := none
    forceUnconditionalCount := 2 }

def Context.resetBackoff (ctx : Context) : Context := { ctx with backoffAttempt := 0 }

structure VerifyingData where
  etag : Text
  version : Option ConfigVersion
  size : Option Nat
  bytes : Bytes
  deriving DecidableEq

structure VerifiedUpdate where
  etag : Text
  version : Option ConfigVersion
  size : Option Nat
  tmpPath : Text
  deriving DecidableEq

inductive State where
  | idle
  | fetching
  | verifying (data : VerifyingData)
  | applying (update : VerifiedUpdate)
  | backoffSleeping
  | stopped
  deriving DecidableEq

inductive Response where
  | newArtifact (etag : Text) (version : Option ConfigVersion) (size : Option Nat) (bytes : Bytes)
  | noUpdate
  | needResync
  | transientUnavailable
  deriving DecidableEq

inductive Event where
  | start (now : Instant)
  | response (response : Response) (now : Instant)
  | verifyOk (update : VerifiedUpdate) (now : Instant)
  | verifyFail (etag : Text) (now : Instant)
  | applyOk (etag : Text) (version : Option ConfigVersion) (now : Instant)
  | applyFail (etag : Text) (now : Instant)
  | timerFired (now : Instant)
  | shutdown
  deriving DecidableEq

def Event.now? : Event → Option Instant
  | .start now => some now
  | .response _ now => some now
  | .verifyOk _ now => some now
  | .verifyFail _ now => some now
  | .applyOk _ _ now => some now
  | .applyFail _ now => some now
  | .timerFired now => some now
  | .shutdown => none

inductive Effect where
  | fetchConditional (waitMs : Nat) (etag : Text)
  | fetchUnconditional (waitMs : Nat)
  | verify (etag : Text) (version : Option ConfigVersion) (size : Option Nat) (bytes : Bytes)
  | apply (update : VerifiedUpdate)
  | scheduleTimer (duration : Duration)
  | discardTemp (path : Text)
  deriving DecidableEq

def Effect.isFetch : Effect → Bool
  | .fetchConditional _ _ => true
  | .fetchUnconditional _ => true
  | .verify _ _ _ _ => false
  | .apply _ => false
  | .scheduleTimer _ => false
  | .discardTemp _ => false

structure Fsm where
  state : State
  ctx : Context
  deriving DecidableEq

def Fsm.new : Fsm := { state := .idle, ctx := Context.new }

def Context.nextFetch (ctx : Context) (now : Instant) : Context × Effect :=
  match ctx.conditionalEtag now with
  | (ctx, some etag) => (ctx, .fetchConditional waitMs etag)
  | (ctx, none) => (ctx, .fetchUnconditional waitMs)

def Context.resumeFetching (ctx : Context) (now : Instant) : Fsm × List Effect :=
  ({ state := .fetching, ctx := (ctx.nextFetch now).1 }, [(ctx.nextFetch now).2])

def Context.sleepBackoff (ctx : Context) (draw : Nat) : Fsm × List Effect :=
  ({ state := .backoffSleeping
     ctx := { ctx with backoffAttempt := min (ctx.backoffAttempt + 1) u32Max } },
    [.scheduleTimer (backoffDelay ctx.backoffAttempt draw)])

/-- The rejected-etag skip test of a `NewArtifact` response. -/
def Context.skips (ctx : Context) (etag : Text) (now : Instant) : Bool :=
  ctx.lastRejectedEtag == some etag &&
    (match ctx.lastRejectedUntil with
      | some deadline => decide (now < deadline)
      | none => false)

def Context.onResponse (ctx : Context) (draw : Nat) (response : Response) (now : Instant) :
    Fsm × List Effect :=
  let ctx := ctx.clearRejectedIfExpired now
  match response with
  | .newArtifact etag version size bytes =>
    if ctx.skips etag now then
      ctx.resetBackoff.resumeFetching now
    else
      ({ state := .verifying ⟨etag, version, size, bytes⟩, ctx := ctx },
        [.verify etag version size bytes])
  | .noUpdate => ctx.resetBackoff.resumeFetching now
  | .needResync =>
    ({ state := .fetching, ctx := ctx.clearConditionalState.resetBackoff },
      [.fetchUnconditional waitMs])
  | .transientUnavailable => ctx.sleepBackoff draw

def Context.onVerifyOk (ctx : Context) (update : VerifiedUpdate) (now : Instant) :
    Fsm × List Effect :=
  let ctx := ctx.clearRejectedIfExpired now
  if ctx.lastAppliedEtag = some update.etag then
    let (fsm, effects) := ctx.resetBackoff.resumeFetching now
    (fsm, .discardTemp update.tmpPath :: effects)
  else
    ({ state := .applying update, ctx := ctx }, [.apply update])

/-- The common body of `VerifyFail` and `ApplyFail`. -/
def Context.onReject (ctx : Context) (draw : Nat) (etag : Text) (now : Instant) :
    Fsm × List Effect :=
  (ctx.setRejected etag now).sleepBackoff draw

/-- The applied etag is not saved while a resync still forces unconditional
fetches. -/
def Context.onApplyOk (ctx : Context) (etag : Text) (version : Option ConfigVersion)
    (now : Instant) : Fsm × List Effect :=
  let ctx :=
    if ctx.forceUnconditionalCount = 0 then { ctx with lastAppliedEtag := some etag } else ctx
  { ctx with
    lastRejectedEtag := none
    lastRejectedUntil := none
    backoffAttempt := 0
    observedVersion := version }.resumeFetching now

def Context.onTimerFired (ctx : Context) (now : Instant) : Fsm × List Effect :=
  (ctx.clearRejectedIfExpired now).resumeFetching now

def Fsm.tick (fsm : Fsm) (draw : Nat) (event : Event) : Fsm × List Effect :=
  match fsm.state, event with
  | .idle, .start now =>
    ({ state := .fetching, ctx := fsm.ctx.clearRejectedIfExpired now },
      [.fetchUnconditional waitMs])
  | .idle, .timerFired now => fsm.ctx.onTimerFired now
  | .idle, .response _ _ => (fsm, [])
  | .idle, .verifyOk _ _ => (fsm, [])
  | .idle, .verifyFail _ _ => (fsm, [])
  | .idle, .applyOk _ _ _ => (fsm, [])
  | .idle, .applyFail _ _ => (fsm, [])
  | .idle, .shutdown => ({ fsm with state := .stopped }, [])
  | .stopped, _ => (fsm, [])
  | .fetching, .response response now => fsm.ctx.onResponse draw response now
  | .fetching, .shutdown => ({ fsm with state := .stopped }, [])
  | .fetching, _ => (fsm, [])
  | .verifying _, .verifyOk update now => fsm.ctx.onVerifyOk update now
  | .verifying _, .verifyFail etag now => fsm.ctx.onReject draw etag now
  | .verifying _, .shutdown => ({ fsm with state := .stopped }, [])
  | .verifying _, _ => (fsm, [])
  | .applying _, .applyOk etag version now => fsm.ctx.onApplyOk etag version now
  | .applying _, .applyFail etag now => fsm.ctx.onReject draw etag now
  | .applying _, .shutdown => ({ fsm with state := .stopped }, [])
  | .applying _, _ => (fsm, [])
  | .backoffSleeping, .timerFired now => fsm.ctx.onTimerFired now
  | .backoffSleeping, .shutdown => ({ fsm with state := .stopped }, [])
  | .backoffSleeping, _ => (fsm, [])

/-! ### What the context operations keep -/

section

variable (ctx : Context)

@[simp] theorem Context.clearRejectedIfExpired_lastAppliedEtag (now : Instant) :
    (ctx.clearRejectedIfExpired now).lastAppliedEtag = ctx.lastAppliedEtag := by
  unfold clearRejectedIfExpired
  split
  · split <;> rfl
  · rfl

@[simp] theorem Context.clearRejectedIfExpired_forceUnconditionalCount (now : Instant) :
    (ctx.clearRejectedIfExpired now).forceUnconditionalCount = ctx.forceUnconditionalCount := by
  unfold clearRejectedIfExpired
  split
  · split <;> rfl
  · rfl

theorem Context.clearRejectedIfExpired_rejection (now : Instant) :
    ((ctx.clearRejectedIfExpired now).lastRejectedEtag = ctx.lastRejectedEtag ∧
      (ctx.clearRejectedIfExpired now).lastRejectedUntil = ctx.lastRejectedUntil ∧
      ∀ deadline, ctx.lastRejectedUntil = some deadline → now < deadline) ∨
    ((ctx.clearRejectedIfExpired now).lastRejectedEtag = none ∧
      (ctx.clearRejectedIfExpired now).lastRejectedUntil = none ∧
      ∃ deadline, ctx.lastRejectedUntil = some deadline ∧ deadline ≤ now) := by
  unfold clearRejectedIfExpired
  cases untilAt : ctx.lastRejectedUntil with
  | none => simp [untilAt]
  | some deadline =>
    by_cases expired : deadline ≤ now
    · simp [expired]
    · simp only [expired, if_false, untilAt, Option.some.injEq, true_and]
      exact Or.inl (fun other same => same ▸ Nat.lt_of_not_le expired)

theorem Context.clearRejectedIfExpired_of_pending (now deadline : Instant)
    (untilAt : ctx.lastRejectedUntil = some deadline) (pending : now < deadline) :
    ctx.clearRejectedIfExpired now = ctx := by
  have unexpired : ¬deadline ≤ now := Nat.not_le_of_lt pending
  simp [clearRejectedIfExpired, untilAt, unexpired]

@[simp] theorem Context.clearRejectedIfExpired_idem (now : Instant) :
    (ctx.clearRejectedIfExpired now).clearRejectedIfExpired now =
      ctx.clearRejectedIfExpired now := by
  cases untilAt : ctx.lastRejectedUntil with
  | none => simp [clearRejectedIfExpired, untilAt]
  | some deadline =>
    by_cases expired : deadline ≤ now <;> simp [clearRejectedIfExpired, untilAt, expired]

theorem Context.nextFetch_fst (now : Instant) :
    (ctx.nextFetch now).1 =
      { ctx.clearRejectedIfExpired now with
        forceUnconditionalCount := ctx.forceUnconditionalCount - 1 } := by
  have count := ctx.clearRejectedIfExpired_forceUnconditionalCount now
  unfold nextFetch conditionalEtag
  rw [← count]
  generalize ctx.clearRejectedIfExpired now = cleared
  obtain ⟨applied, rejected, deadline, attempt, version, forced⟩ := cleared
  cases forced with
  | zero => cases rejected <;> cases applied <;> rfl
  | succ forced => rfl

@[simp] theorem Context.resetBackoff_lastAppliedEtag :
    ctx.resetBackoff.lastAppliedEtag = ctx.lastAppliedEtag := rfl

@[simp] theorem Context.resetBackoff_lastRejectedEtag :
    ctx.resetBackoff.lastRejectedEtag = ctx.lastRejectedEtag := rfl

@[simp] theorem Context.resetBackoff_lastRejectedUntil :
    ctx.resetBackoff.lastRejectedUntil = ctx.lastRejectedUntil := rfl

@[simp] theorem Context.resetBackoff_forceUnconditionalCount :
    ctx.resetBackoff.forceUnconditionalCount = ctx.forceUnconditionalCount := rfl

@[simp] theorem Context.clearRejectedIfExpired_resetBackoff (now : Instant) :
    ctx.resetBackoff.clearRejectedIfExpired now =
      (ctx.clearRejectedIfExpired now).resetBackoff := by
  obtain ⟨applied, rejected, stored, attempt, version, forced⟩ := ctx
  cases stored with
  | none => rfl
  | some deadline =>
    by_cases expired : deadline ≤ now <;> simp [clearRejectedIfExpired, resetBackoff, expired]

@[simp] theorem Context.resumeFetching_state (now : Instant) :
    (ctx.resumeFetching now).1.state = .fetching := rfl

@[simp] theorem Context.resumeFetching_ctx (now : Instant) :
    (ctx.resumeFetching now).1.ctx =
      { ctx.clearRejectedIfExpired now with
        forceUnconditionalCount := ctx.forceUnconditionalCount - 1 } :=
  ctx.nextFetch_fst now

@[simp] theorem Context.resumeFetching_effects (now : Instant) :
    (ctx.resumeFetching now).2 = [(ctx.nextFetch now).2] := rfl

theorem Context.nextFetch_of_forced (now : Instant) (forced : ctx.forceUnconditionalCount ≠ 0) :
    (ctx.nextFetch now).2 = .fetchUnconditional waitMs := by
  have positive : ctx.forceUnconditionalCount > 0 := by omega
  simp [nextFetch, conditionalEtag, positive]

theorem Context.nextFetch_of_rejected (now : Instant) (etag : Text)
    (unforced : ctx.forceUnconditionalCount = 0)
    (rejected : (ctx.clearRejectedIfExpired now).lastRejectedEtag = some etag) :
    (ctx.nextFetch now).2 = .fetchConditional waitMs etag := by
  simp [nextFetch, conditionalEtag, unforced, rejected]

theorem Context.nextFetch_of_applied (now : Instant) (etag : Text)
    (unforced : ctx.forceUnconditionalCount = 0)
    (unrejected : (ctx.clearRejectedIfExpired now).lastRejectedEtag = none)
    (applied : ctx.lastAppliedEtag = some etag) :
    (ctx.nextFetch now).2 = .fetchConditional waitMs etag := by
  simp [nextFetch, conditionalEtag, unforced, unrejected, applied]

theorem Context.nextFetch_conditional (now : Instant) (wait : Nat) (etag : Text)
    (conditional : (ctx.nextFetch now).2 = .fetchConditional wait etag) :
    (ctx.clearRejectedIfExpired now).lastRejectedEtag = some etag ∨
      ctx.lastAppliedEtag = some etag := by
  by_cases forced : ctx.forceUnconditionalCount = 0
  · cases rejected : (ctx.clearRejectedIfExpired now).lastRejectedEtag with
    | some other =>
      rw [ctx.nextFetch_of_rejected now other forced rejected] at conditional
      cases conditional
      exact Or.inl rfl
    | none =>
      cases applied : ctx.lastAppliedEtag with
      | some other =>
        rw [ctx.nextFetch_of_applied now other forced rejected applied] at conditional
        cases conditional
        exact Or.inr rfl
      | none => simp [nextFetch, conditionalEtag, forced, rejected, applied] at conditional
  · rw [ctx.nextFetch_of_forced now forced] at conditional
    cases conditional

@[simp] theorem Context.nextFetch_isFetch (now : Instant) :
    (ctx.nextFetch now).2.isFetch = true := by
  unfold nextFetch
  split <;> rfl

theorem Context.ne_nextFetch (now : Instant) {effect : Effect} (other : effect.isFetch = false) :
    effect ≠ (ctx.nextFetch now).2 := by
  intro same
  rw [same, ctx.nextFetch_isFetch now] at other
  cases other

theorem Context.skips_iff (etag : Text) (now : Instant) :
    ctx.skips etag now = true ↔
      ctx.lastRejectedEtag = some etag ∧
        ∃ deadline, ctx.lastRejectedUntil = some deadline ∧ now < deadline := by
  unfold skips
  cases ctx.lastRejectedUntil <;> simp

end

end Pavis.Agent
