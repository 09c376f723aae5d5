/-
The agent's state machine does not look at versions.

A view replaces every version and size by nothing.
-/

import Pavis.Agent.FsmRuns

namespace Pavis.Agent

open ByteText LabelledRun

def VerifyingData.blind (data : VerifyingData) : VerifyingData :=
  { data with version := none, size := none }

def VerifiedUpdate.blind (update : VerifiedUpdate) : VerifiedUpdate :=
  { update with version := none, size := none }

def State.blind : State → State
  | .verifying data => .verifying data.blind
  | .applying update => .applying update.blind
  | state => state

def Context.blind (ctx : Context) : Context := { ctx with observedVersion := none }

def Fsm.blind (fsm : Fsm) : Fsm := { state := fsm.state.blind, ctx := fsm.ctx.blind }

def Response.blind : Response → Response
  | .newArtifact etag _ _ bytes => .newArtifact etag none none bytes
  | response => response

def Event.blind : Event → Event
  | .response answer now => .response answer.blind now
  | .verifyOk update now => .verifyOk update.blind now
  | .applyOk etag _ now => .applyOk etag none now
  | event => event

def Input.blind (input : Input) : Input := { input with event := input.event.blind }

def Effect.blind : Effect → Effect
  | .verify etag _ _ bytes => .verify etag none none bytes
  | .apply update => .apply update.blind
  | effect => effect

def blindResult (result : Fsm × List Effect) : Fsm × List Effect :=
  (result.1.blind, result.2.map Effect.blind)

theorem Context.blind_clearRejectedIfExpired (ctx : Context) (now : Instant) :
    ctx.blind.clearRejectedIfExpired now = (ctx.clearRejectedIfExpired now).blind := by
  obtain ⟨applied, rejected, deadline, attempt, version, forced⟩ := ctx
  cases deadline with
  | none => rfl
  | some deadline =>
    by_cases expired : deadline ≤ now
    · simp [clearRejectedIfExpired, blind, expired]
    · simp [clearRejectedIfExpired, blind, expired]

theorem Context.blind_nextFetch (ctx : Context) (now : Instant) :
    ctx.blind.nextFetch now =
      ((ctx.nextFetch now).1.blind, (ctx.nextFetch now).2.blind) := by
  unfold nextFetch conditionalEtag
  rw [blind_clearRejectedIfExpired]
  generalize ctx.clearRejectedIfExpired now = cleared
  obtain ⟨applied, rejected, deadline, attempt, version, forced⟩ := cleared
  cases forced with
  | zero => cases rejected <;> cases applied <;> rfl
  | succ => rfl

theorem Context.blind_resumeFetching (ctx : Context) (now : Instant) :
    ctx.blind.resumeFetching now = blindResult (ctx.resumeFetching now) := by
  unfold resumeFetching
  rw [blind_nextFetch]
  rfl

theorem Context.blind_onResponse (ctx : Context) (draw : Nat) (response : Response)
    (now : Instant) :
    ctx.blind.onResponse draw response.blind now =
      blindResult (ctx.onResponse draw response now) := by
  unfold onResponse
  rw [blind_clearRejectedIfExpired]
  generalize ctx.clearRejectedIfExpired now = cleared
  cases response with
  | newArtifact etag =>
    dsimp only [Response.blind]
    have sameSkip : cleared.blind.skips etag now = cleared.skips etag now := rfl
    rw [sameSkip]
    cases cleared.skips etag now with
    | true => exact cleared.resetBackoff.blind_resumeFetching now
    | false => rfl
  | noUpdate => exact cleared.resetBackoff.blind_resumeFetching now
  | needResync | transientUnavailable => rfl

theorem Context.blind_onVerifyOk (ctx : Context) (update : VerifiedUpdate) (now : Instant) :
    ctx.blind.onVerifyOk update.blind now = blindResult (ctx.onVerifyOk update now) := by
  unfold onVerifyOk
  rw [blind_clearRejectedIfExpired]
  generalize ctx.clearRejectedIfExpired now = cleared
  have resumed := cleared.resetBackoff.blind_resumeFetching now
  change cleared.blind.resetBackoff.resumeFetching now = _ at resumed
  by_cases same : cleared.lastAppliedEtag = some update.etag
  · have sameBlind : cleared.blind.lastAppliedEtag = some update.blind.etag := same
    rw [if_pos same, if_pos sameBlind, resumed]
    rfl
  · have otherBlind : ¬cleared.blind.lastAppliedEtag = some update.blind.etag := same
    rw [if_neg same, if_neg otherBlind]
    rfl

theorem Context.blind_onApplyOk (ctx : Context) (etag : Text) (version : Option ConfigVersion)
    (now : Instant) :
    ctx.blind.onApplyOk etag none now = blindResult (ctx.onApplyOk etag version now) := by
  unfold onApplyOk
  rw [← blind_resumeFetching]
  by_cases settled : ctx.forceUnconditionalCount = 0
  · have settledBlind : ctx.blind.forceUnconditionalCount = 0 := settled
    rw [if_pos settled, if_pos settledBlind]
    rfl
  · have forcedBlind : ¬ctx.blind.forceUnconditionalCount = 0 := settled
    rw [if_neg settled, if_neg forcedBlind]
    rfl

theorem Context.blind_onTimerFired (ctx : Context) (now : Instant) :
    ctx.blind.onTimerFired now = blindResult (ctx.onTimerFired now) := by
  unfold onTimerFired
  rw [blind_clearRejectedIfExpired, blind_resumeFetching]

theorem Fsm.blind_tick (fsm : Fsm) (draw : Nat) (event : Event) :
    fsm.blind.tick draw event.blind = blindResult (fsm.tick draw event) := by
  obtain ⟨state, ctx⟩ := fsm
  cases state with
  | idle =>
    cases event with
    | start now =>
      change (mk .fetching (ctx.blind.clearRejectedIfExpired now), _) = _
      rw [Context.blind_clearRejectedIfExpired]
      rfl
    | timerFired now => exact ctx.blind_onTimerFired now
    | _ => rfl
  | stopped => cases event <;> rfl
  | fetching =>
    cases event with
    | response response now => exact ctx.blind_onResponse draw response now
    | _ => rfl
  | verifying =>
    cases event with
    | verifyOk update now => exact ctx.blind_onVerifyOk update now
    | _ => rfl
  | applying =>
    cases event with
    | applyOk etag version now => exact ctx.blind_onApplyOk etag version now
    | _ => rfl
  | backoffSleeping =>
    cases event with
    | timerFired now => exact ctx.blind_onTimerFired now
    | _ => rfl

def Tick.blind (tick : Tick) : Tick :=
  tick.view Fsm.blind Input.blind (List.map Effect.blind)

private theorem trace_blind (fsm : Fsm) (inputs : List Input) :
    (trace tickMachine fsm inputs).map Tick.blind =
      trace tickMachine fsm.blind (inputs.map Input.blind) :=
  trace_view (fun current input => congrArg some (current.blind_tick input.draw input.event))
    fsm inputs

/-- Two runs from one state on events that agree up to versions and sizes go
through the same states and effects up to the versions and sizes these carry
and the observed version. -/
theorem runs_version_blind (fsm : Fsm) {left right : List Input}
    (agree : left.map Input.blind = right.map Input.blind) :
    (trace tickMachine fsm left).map Tick.blind =
      (trace tickMachine fsm right).map Tick.blind := by
  rw [trace_blind, trace_blind, agree]

def announced (version : Option ConfigVersion) : List Input :=
  [⟨.start 0, 0⟩, ⟨.response (.newArtifact (literal "sha256:a") version (some 1) [7]) 1, 0⟩]

def versionOne : ConfigVersion := ⟨1, by decide, by decide⟩

theorem announced_versions_agree :
    (trace tickMachine Fsm.new (announced none)).map Tick.blind =
      (trace tickMachine Fsm.new (announced (some versionOne))).map Tick.blind :=
  runs_version_blind Fsm.new rfl

/-- The state reached still carries the version it was announced with. -/
theorem announced_version_carried :
    (announced none).map Input.blind = (announced (some versionOne)).map Input.blind ∧
      (final Fsm.new (trace tickMachine Fsm.new (announced none))).state ≠
        (final Fsm.new (trace tickMachine Fsm.new (announced (some versionOne)))).state := by
  decide

end Pavis.Agent
