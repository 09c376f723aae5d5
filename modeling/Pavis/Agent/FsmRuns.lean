/-
Runs of the agent's state machine.

`Transition` lists what one tick can do, with its guards; every invariant below
and in the modules above is a case analysis of it.
-/

import Pavis.Agent.Fsm
import Pavis.Library.LabelledRun

namespace Pavis.Agent

open ByteText LabelledRun

structure Input where
  event : Event
  draw : Nat
  deriving DecidableEq

abbrev Tick := Step Fsm Input (List Effect)

def tickMachine : Machine Fsm Input (List Effect) :=
  fun fsm input => some (fsm.tick input.draw input.event)

/-- The machine after `Fsm::new_with_lkg_path` and `bootstrap_from_lkg`, which
records the etag of a local last-known-good artifact when it could be loaded. -/
def Fsm.boot (lkgEtag : Option Text) : Fsm :=
  { new with ctx := { Context.new with lastAppliedEtag := lkgEtag } }

/-- The events a state reacts to; all others leave the machine as it is. -/
def State.handles : State → Event → Bool
  | .idle, .start _ => true
  | .idle, .timerFired _ => true
  | .fetching, .response _ _ => true
  | .verifying _, .verifyOk _ _ => true
  | .verifying _, .verifyFail _ _ => true
  | .applying _, .applyOk _ _ _ => true
  | .applying _, .applyFail _ _ => true
  | .backoffSleeping, .timerFired _ => true
  | .stopped, _ => false
  | _, .shutdown => true
  | _, _ => false

inductive Transition (draw : Nat) : Fsm → Event → Fsm × List Effect → Prop where
  | started (ctx : Context) (now : Instant) :
      Transition draw ⟨.idle, ctx⟩ (.start now)
        (⟨.fetching, ctx.clearRejectedIfExpired now⟩, [.fetchUnconditional waitMs])
  | resumed (state : State) (ctx : Context) (now : Instant)
      (waiting : state = .idle ∨ state = .backoffSleeping) :
      Transition draw ⟨state, ctx⟩ (.timerFired now)
        ((ctx.clearRejectedIfExpired now).resumeFetching now)
  | skipped (ctx : Context) (etag : Text) (version : Option ConfigVersion) (size : Option Nat)
      (bytes : Bytes) (now : Instant)
      (skips : (ctx.clearRejectedIfExpired now).skips etag now = true) :
      Transition draw ⟨.fetching, ctx⟩ (.response (.newArtifact etag version size bytes) now)
        ((ctx.clearRejectedIfExpired now).resetBackoff.resumeFetching now)
  | verifies (ctx : Context) (etag : Text) (version : Option ConfigVersion) (size : Option Nat)
      (bytes : Bytes) (now : Instant)
      (unskipped : (ctx.clearRejectedIfExpired now).skips etag now = false) :
      Transition draw ⟨.fetching, ctx⟩ (.response (.newArtifact etag version size bytes) now)
        (⟨.verifying ⟨etag, version, size, bytes⟩, ctx.clearRejectedIfExpired now⟩,
          [.verify etag version size bytes])
  | polledAgain (ctx : Context) (now : Instant) :
      Transition draw ⟨.fetching, ctx⟩ (.response .noUpdate now)
        ((ctx.clearRejectedIfExpired now).resetBackoff.resumeFetching now)
  | resynced (ctx : Context) (now : Instant) :
      Transition draw ⟨.fetching, ctx⟩ (.response .needResync now)
        (⟨.fetching, (ctx.clearRejectedIfExpired now).clearConditionalState.resetBackoff⟩,
          [.fetchUnconditional waitMs])
  | unavailable (ctx : Context) (now : Instant) :
      Transition draw ⟨.fetching, ctx⟩ (.response .transientUnavailable now)
        ((ctx.clearRejectedIfExpired now).sleepBackoff draw)
  | duplicate (data : VerifyingData) (ctx : Context) (update : VerifiedUpdate) (now : Instant)
      (applied : ctx.lastAppliedEtag = some update.etag) :
      Transition draw ⟨.verifying data, ctx⟩ (.verifyOk update now)
        (((ctx.clearRejectedIfExpired now).resetBackoff.resumeFetching now).1,
          .discardTemp update.tmpPath ::
            ((ctx.clearRejectedIfExpired now).resetBackoff.resumeFetching now).2)
  | applies (data : VerifyingData) (ctx : Context) (update : VerifiedUpdate) (now : Instant)
      (fresh : ctx.lastAppliedEtag ≠ some update.etag) :
      Transition draw ⟨.verifying data, ctx⟩ (.verifyOk update now)
        (⟨.applying update, ctx.clearRejectedIfExpired now⟩, [.apply update])
  | verifyRejected (data : VerifyingData) (ctx : Context) (etag : Text) (now : Instant) :
      Transition draw ⟨.verifying data, ctx⟩ (.verifyFail etag now) (ctx.onReject draw etag now)
  | applyRejected (update : VerifiedUpdate) (ctx : Context) (etag : Text) (now : Instant) :
      Transition draw ⟨.applying update, ctx⟩ (.applyFail etag now) (ctx.onReject draw etag now)
  | applied (update : VerifiedUpdate) (ctx : Context) (etag : Text)
      (version : Option ConfigVersion) (now : Instant) :
      Transition draw ⟨.applying update, ctx⟩ (.applyOk etag version now)
        (ctx.onApplyOk etag version now)
  | halted (state : State) (ctx : Context) :
      Transition draw ⟨state, ctx⟩ .shutdown (⟨.stopped, ctx⟩, [])
  | ignored (fsm : Fsm) (event : Event) (unhandled : fsm.state.handles event = false) :
      Transition draw fsm event (fsm, [])

theorem Fsm.tick_transition (fsm : Fsm) (draw : Nat) (event : Event) :
    Transition draw fsm event (fsm.tick draw event) := by
  obtain ⟨state, ctx⟩ := fsm
  cases state with
  | idle =>
    cases event with
    | start now => exact .started ctx now
    | timerFired now => exact .resumed .idle ctx now (Or.inl rfl)
    | shutdown => exact .halted .idle ctx
    | _ => exact .ignored _ _ rfl
  | stopped => exact .ignored _ _ rfl
  | fetching =>
    cases event with
    | response response now =>
      cases response with
      | newArtifact etag version size bytes =>
        cases skips : (ctx.clearRejectedIfExpired now).skips etag now with
        | true =>
          simpa only [tick, Context.onResponse, skips, if_true] using
            Transition.skipped ctx etag version size bytes now skips
        | false =>
          simpa only [tick, Context.onResponse, skips, Bool.false_eq_true, if_false] using
            Transition.verifies ctx etag version size bytes now skips
      | noUpdate => exact .polledAgain ctx now
      | needResync => exact .resynced ctx now
      | transientUnavailable => exact .unavailable ctx now
    | shutdown => exact .halted .fetching ctx
    | _ => exact .ignored _ _ rfl
  | verifying data =>
    cases event with
    | verifyOk update now =>
      by_cases same : ctx.lastAppliedEtag = some update.etag
      · simpa only [tick, Context.onVerifyOk, Context.clearRejectedIfExpired_lastAppliedEtag,
          same, if_true] using Transition.duplicate data ctx update now same
      · simpa only [tick, Context.onVerifyOk, Context.clearRejectedIfExpired_lastAppliedEtag,
          same, if_false] using Transition.applies data ctx update now same
    | verifyFail etag now => exact .verifyRejected data ctx etag now
    | shutdown => exact .halted _ ctx
    | _ => exact .ignored _ _ rfl
  | applying update =>
    cases event with
    | applyOk etag version now => exact .applied update ctx etag version now
    | applyFail etag now => exact .applyRejected update ctx etag now
    | shutdown => exact .halted _ ctx
    | _ => exact .ignored _ _ rfl
  | backoffSleeping =>
    cases event with
    | timerFired now => exact .resumed .backoffSleeping ctx now (Or.inr rfl)
    | shutdown => exact .halted .backoffSleeping ctx
    | _ => exact .ignored _ _ rfl

theorem transition_of_accepted {step : Tick} (accepted : step.Accepted tickMachine) :
    Transition step.label.draw step.before step.label.event (step.after, step.output) := by
  have ticked : step.before.tick step.label.draw step.label.event = (step.after, step.output) :=
    Option.some.inj accepted
  rw [← ticked]
  exact step.before.tick_transition step.label.draw step.label.event

end Pavis.Agent
