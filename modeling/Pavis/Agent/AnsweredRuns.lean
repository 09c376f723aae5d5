/-
Runs in which results answer effects.

A session keeps the verify and apply effects that were emitted and have not
been answered. A result event is accepted only when it answers one of them,
with the etag, version and size the effect carried.
-/

import Pavis.Agent.FsmRuns

namespace Pavis.Agent

open ByteText LabelledRun

def Effect.awaitsResult : Effect → Bool
  | .fetchConditional _ _ => false
  | .fetchUnconditional _ => false
  | .verify _ _ _ _ => true
  | .apply _ => true
  | .scheduleTimer _ => false
  | .discardTemp _ => false

@[simp] theorem Effect.awaitsResult_discardTemp (path : Text) :
    (discardTemp path).awaitsResult = false := rfl

theorem Effect.awaitsResult_of_isFetch (effect : Effect) (isFetch : effect.isFetch = true) :
    effect.awaitsResult = false := by
  cases effect with
  | fetchConditional | fetchUnconditional => rfl
  | _ => cases isFetch

@[simp] theorem Context.nextFetch_awaitsResult (ctx : Context) (now : Instant) :
    (ctx.nextFetch now).2.awaitsResult = false :=
  Effect.awaitsResult_of_isFetch _ (ctx.nextFetch_isFetch now)

def Event.isResult : Event → Bool
  | .start _ => false
  | .response _ _ => false
  | .verifyOk _ _ => true
  | .verifyFail _ _ => true
  | .applyOk _ _ _ => true
  | .applyFail _ _ => true
  | .timerFired _ => false
  | .shutdown => false

/-- The result reports on the effect it was produced for. -/
def Event.answers : Event → Effect → Bool
  | .verifyOk update _, .verify etag version size _ =>
    update.etag == etag && update.version == version && update.size == size
  | .verifyFail failed _, .verify etag _ _ _ => failed == etag
  | .applyOk etag version _, .apply update => etag == update.etag && version == update.version
  | .applyFail failed _, .apply update => failed == update.etag
  | _, _ => false

structure Session where
  fsm : Fsm
  outstanding : List Effect
  deriving DecidableEq

def Session.boot (lkgEtag : Option Text) : Session :=
  { fsm := Fsm.boot lkgEtag, outstanding := [] }

def Session.step : Machine Session Input (List Effect) := fun session input =>
  if input.event.isResult && !session.outstanding.any input.event.answers then none
  else
    let (fsm, effects) := session.fsm.tick input.draw input.event
    some
      ({ fsm := fsm
         outstanding := session.outstanding.eraseP input.event.answers ++
           effects.filter Effect.awaitsResult },
        effects)

abbrev Answered := LabelledRun.Step Session Input (List Effect)

variable {step : Answered}

theorem Answered.spec (accepted : step.Accepted Session.step) :
    (step.label.event.isResult = true →
      step.before.outstanding.any step.label.event.answers = true) ∧
    step.before.fsm.tick step.label.draw step.label.event = (step.after.fsm, step.output) ∧
    step.after.outstanding = step.before.outstanding.eraseP step.label.event.answers ++
      step.output.filter Effect.awaitsResult := by
  unfold Step.Accepted Session.step at accepted
  split at accepted
  · cases accepted
  · rename_i permitted
    simp only [Option.some.injEq, Prod.mk.injEq] at accepted
    obtain ⟨after, output⟩ := accepted
    refine ⟨?_, ?_, ?_⟩
    · intro isResult
      simpa [isResult] using permitted
    · rw [← after, ← output]
    · rw [← after, ← output]

theorem Answered.transition (accepted : step.Accepted Session.step) :
    Transition step.label.draw step.before.fsm step.label.event (step.after.fsm, step.output) := by
  rw [← (spec accepted).2.1]
  exact step.before.fsm.tick_transition step.label.draw step.label.event

/-- The effects a state is waiting to have answered. -/
def State.owed : State → List Effect
  | .idle => []
  | .fetching => []
  | .verifying data => [.verify data.etag data.version data.size data.bytes]
  | .applying update => [.apply update]
  | .backoffSleeping => []
  | .stopped => []

/-- A stopped machine may leave an effect unanswered; no other state does. -/
def Session.Coherent (session : Session) : Prop :=
  session.fsm.state = .stopped ∨ session.outstanding = session.fsm.state.owed

theorem Session.coherent_boot (lkgEtag : Option Text) : (boot lkgEtag).Coherent :=
  Or.inr rfl

variable {draw : Nat} {fsm : Fsm} {result : Fsm × List Effect}

theorem Transition.owed {event : Event} (transition : Transition draw fsm event result)
    (handled : fsm.state.handles event = true) :
    result.2.filter Effect.awaitsResult = result.1.state.owed := by
  cases transition with
  | ignored _ _ unhandled =>
    rw [unhandled] at handled
    cases handled
  | started | verifies | resynced | unavailable | applies | verifyRejected | applyRejected
  | halted => rfl
  | resumed | skipped | polledAgain | duplicate => simp [State.owed]
  | applied => simp [State.owed, Context.onApplyOk]

theorem State.owed_unhandled (state : State) (event : Event) (running : state ≠ .stopped)
    (unhandled : state.handles event = false) : state.owed.eraseP event.answers = state.owed := by
  cases state with
  | verifying | applying => cases event <;> first | rfl | cases unhandled
  | stopped => exact absurd rfl running
  | _ => rfl

theorem State.owed_handled (state : State) (event : Event) (notShutdown : event ≠ .shutdown)
    (handled : state.handles event = true)
    (answered : event.isResult = true → state.owed.any event.answers = true) :
    state.owed.eraseP event.answers = [] := by
  cases state with
  | verifying =>
    cases event with
    | verifyOk | verifyFail => simpa [owed] using answered rfl
    | shutdown => exact absurd rfl notShutdown
    | _ => cases handled
  | applying =>
    cases event with
    | applyOk | applyFail => simpa [owed] using answered rfl
    | shutdown => exact absurd rfl notShutdown
    | _ => cases handled
  | _ => rfl

theorem Transition.halts (transition : Transition draw fsm .shutdown result)
    (handled : fsm.state.handles .shutdown = true) : result.1.state = .stopped := by
  cases transition with
  | halted => rfl
  | ignored _ _ unhandled =>
    rw [unhandled] at handled
    cases handled

theorem Transition.unhandled {event : Event} (transition : Transition draw fsm event result)
    (unhandled : fsm.state.handles event = false) : result = (fsm, []) := by
  cases transition with
  | ignored => rfl
  | resumed state ctx now waiting => rcases waiting with rfl | rfl <;> cases unhandled
  | halted state =>
    cases state with
    | stopped => rfl
    | _ => cases unhandled
  | _ => cases unhandled

theorem Session.coherent_step (accepted : step.Accepted Session.step)
    (coherent : step.before.Coherent) : step.after.Coherent := by
  obtain ⟨answered, _, outstandingAt⟩ := Answered.spec accepted
  have transition := Answered.transition accepted
  cases handled : step.before.fsm.state.handles step.label.event with
  | false =>
    have unchanged := transition.unhandled handled
    rw [Prod.mk.injEq] at unchanged
    rw [unchanged.2, List.filter_nil, List.append_nil] at outstandingAt
    unfold Coherent
    rw [unchanged.1]
    rcases coherent with stopped | owed
    · exact Or.inl stopped
    · by_cases stopped : step.before.fsm.state = .stopped
      · exact Or.inl stopped
      · apply Or.inr
        rw [outstandingAt, owed, State.owed_unhandled _ _ stopped handled]
  | true =>
    have running : step.before.fsm.state ≠ .stopped := by
      intro stopped
      rw [stopped] at handled
      cases handled
    have owed := coherent.resolve_left running
    by_cases shutdown : step.label.event = .shutdown
    · rw [shutdown] at transition handled
      exact Or.inl (transition.halts handled)
    · apply Or.inr
      rw [owed] at answered
      rw [outstandingAt, owed, State.owed_handled _ _ shutdown handled answered,
        List.nil_append]
      exact transition.owed handled

theorem Session.owes (accepted : step.Accepted Session.step) (coherent : step.before.Coherent)
    (isResult : step.label.event.isResult = true) :
    step.before.fsm.state.owed.any step.label.event.answers = true ∨
      step.before.fsm.state = .stopped := by
  rcases coherent with stopped | owed
  · exact Or.inr stopped
  · exact Or.inl (owed ▸ (Answered.spec accepted).1 isResult)

theorem Session.applyOk_state (accepted : step.Accepted Session.step)
    (coherent : step.before.Coherent) {etag : Text} {version : Option ConfigVersion} {now : Instant}
    (eventAt : step.label.event = .applyOk etag version now) :
    (∃ update, step.before.fsm.state = .applying update ∧ update.etag = etag) ∨
      step.before.fsm.state = .stopped := by
  refine (owes accepted coherent (by rw [eventAt]; rfl)).imp_left fun answered => ?_
  cases stateAt : step.before.fsm.state <;> simp_all [State.owed, Event.answers]

theorem Session.verifyOk_state (accepted : step.Accepted Session.step)
    (coherent : step.before.Coherent) {update : VerifiedUpdate} {now : Instant}
    (eventAt : step.label.event = .verifyOk update now) :
    (∃ data, step.before.fsm.state = .verifying data ∧ data.etag = update.etag) ∨
      step.before.fsm.state = .stopped := by
  refine (owes accepted coherent (by rw [eventAt]; rfl)).imp_left fun answered => ?_
  cases stateAt : step.before.fsm.state <;> simp_all [State.owed, Event.answers]

end Pavis.Agent
