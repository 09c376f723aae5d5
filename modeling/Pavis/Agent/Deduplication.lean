/-
Deduplication of applied artifacts.

The machine remembers the etag it applied last and skips an artifact with that
etag after verification. A resync drops this memory and forces two
unconditional fetches, during which an applied etag is not saved.
-/

import Pavis.Agent.AnsweredRuns
import Pavis.Agent.Rejection

namespace Pavis.Agent

open ByteText LabelledRun

/-- Every way a tick can leave the applied etag and the forced-fetch counter. -/
inductive AppliedChange (fsm : Fsm) (event : Event) (ctx : Context) : Prop where
  | kept (appliedAt : ctx.lastAppliedEtag = fsm.ctx.lastAppliedEtag)
      (countAt : ctx.forceUnconditionalCount ≤ fsm.ctx.forceUnconditionalCount)
      (incomplete : ∀ etag, ¬fsm.Completes event etag)
  | forgotten (cause : fsm.Resyncs event) (appliedAt : ctx.lastAppliedEtag = none)
      (countAt : ctx.forceUnconditionalCount = 2)
  | saved (etag : Text) (cause : fsm.Completes event etag)
      (unforced : fsm.ctx.forceUnconditionalCount = 0)
      (appliedAt : ctx.lastAppliedEtag = some etag)
      (countAt : ctx.forceUnconditionalCount = 0)
  | unsaved (etag : Text) (cause : fsm.Completes event etag)
      (forced : fsm.ctx.forceUnconditionalCount ≠ 0)
      (appliedAt : ctx.lastAppliedEtag = fsm.ctx.lastAppliedEtag)
      (countAt : ctx.forceUnconditionalCount = fsm.ctx.forceUnconditionalCount - 1)

variable {fsm : Fsm} {event : Event} {draw : Nat} {result : Fsm × List Effect} {step : Answered}

private theorem incomplete_of_event
    (different : ∀ etag version now, event ≠ .applyOk etag version now) :
    ∀ etag, ¬fsm.Completes event etag := by
  intro etag completes
  obtain ⟨update, version, now, _, eventAt⟩ := completes
  exact different etag version now eventAt

theorem Transition.appliedChange (transition : Transition draw fsm event result) :
    AppliedChange fsm event result.1.ctx := by
  cases transition with
  | resynced ctx now => exact .forgotten ⟨rfl, now, rfl⟩ rfl rfl
  | applied update ctx etag version now =>
    by_cases unforced : ctx.forceUnconditionalCount = 0
    · refine .saved etag ⟨update, version, now, rfl, rfl⟩ unforced ?_ ?_
      · simp [Context.onApplyOk, unforced]
      · simp [Context.onApplyOk, unforced]
    · refine .unsaved etag ⟨update, version, now, rfl, rfl⟩ unforced ?_ ?_
      · simp [Context.onApplyOk, unforced]
      · simp [Context.onApplyOk, unforced]
  | verifyRejected | applyRejected | halted =>
    exact .kept rfl (Nat.le_refl _) (incomplete_of_event (by simp))
  | unavailable =>
    exact .kept (by simp [Context.sleepBackoff]) (by simp [Context.sleepBackoff])
      (incomplete_of_event (by simp))
  | ignored _ _ unhandled =>
    refine .kept rfl (Nat.le_refl _) ?_
    intro etag completes
    obtain ⟨update, version, now, stateAt, rfl⟩ := completes
    rw [stateAt] at unhandled
    cases unhandled
  | _ => exact .kept (by simp) (by simp) (incomplete_of_event (by simp))

theorem Answered.appliedChange (accepted : step.Accepted Session.step) :
    AppliedChange step.before.fsm step.label.event step.after.fsm.ctx :=
  (transition accepted).appliedChange

theorem Transition.apply_emitted (transition : Transition draw fsm event result)
    {update : VerifiedUpdate} (emitted : Effect.apply update ∈ result.2) :
    fsm.ctx.lastAppliedEtag ≠ some update.etag := by
  have notFetch (ctx : Context) (now : Instant) : Effect.apply update ≠ (ctx.nextFetch now).2 :=
    ctx.ne_nextFetch now rfl
  cases transition with
  | applies data ctx other now fresh =>
    simp only [List.mem_singleton, Effect.apply.injEq] at emitted
    subst emitted
    exact fresh
  | applied => simp [Context.onApplyOk, notFetch] at emitted
  | verifyRejected | applyRejected => simp [Context.onReject, Context.sleepBackoff] at emitted
  | unavailable => simp [Context.sleepBackoff] at emitted
  | _ => simp [notFetch] at emitted

/-- The etag is remembered as applied and no resync is in progress. -/
def Context.Remembers (ctx : Context) (etag : Text) : Prop :=
  ctx.lastAppliedEtag = some etag ∧ ctx.forceUnconditionalCount = 0

variable {etag : Text}

theorem AppliedChange.remembers {ctx : Context} (change : AppliedChange fsm event ctx)
    (remembered : fsm.ctx.Remembers etag) (unresynced : ¬fsm.Resyncs event)
    (same : ∀ other, fsm.Completes event other → other = etag) : ctx.Remembers etag := by
  obtain ⟨applied, unforced⟩ := remembered
  cases change with
  | kept appliedAt => exact ⟨appliedAt.trans applied, by omega⟩
  | forgotten cause => exact absurd cause unresynced
  | saved other cause _ appliedAt countAt =>
    have equal := same other cause
    subst equal
    exact ⟨appliedAt, countAt⟩
  | unsaved other cause forced => exact absurd unforced forced

private theorem stopped_of_accepted (accepted : step.Accepted Session.step)
    (stopped : step.before.fsm.state = .stopped) :
    step.after.fsm.state = .stopped ∧ step.output = [] := by
  have unchanged := (Answered.transition accepted).unhandled (by rw [stopped]; rfl)
  rw [Prod.mk.injEq] at unchanged
  rw [unchanged.1]
  exact ⟨stopped, unchanged.2⟩

private theorem reapply_needs_change {lkgEtag : Option Text} {steps : List Answered}
    (isRun : IsRun Session.step (Session.boot lkgEtag) steps) {first last : Nat}
    (ordered : first < last) {applying reapplying : Answered}
    (foundApplying : steps[first]? = some applying)
    (foundReapplying : steps[last]? = some reapplying) {version : Option ConfigVersion}
    {now : Instant} (eventAt : applying.label.event = .applyOk etag version now)
    (unforced : applying.before.fsm.ctx.forceUnconditionalCount = 0) {update : VerifiedUpdate}
    (emitted : Effect.apply update ∈ reapplying.output) (same : update.etag = etag) :
    ∃ (index : Nat) (between : Answered),
      first < index ∧ index < last ∧ steps[index]? = some between ∧
      (between.before.fsm.Resyncs between.label.event ∨
        ∃ other, other ≠ etag ∧ between.before.fsm.Completes between.label.event other) := by
  by_contra nothing
  have coherent := isRun.invariant_before Session.Coherent (Session.coherent_boot lkgEtag)
    (fun _ accepted => Session.coherent_step accepted) foundApplying
  have accepted := isRun.accepted_at foundApplying
  have emitting := Answered.transition (isRun.accepted_at foundReapplying)
  rcases Session.applyOk_state accepted coherent eventAt with ⟨running, stateAt, _⟩ | stopped
  · apply emitting.apply_emitted emitted
    rw [same]
    refine (isRun.persists (fun session => session.fsm.ctx.Remembers etag)
      foundApplying foundReapplying ordered ?_ ?_).1
    · have change := Answered.appliedChange accepted
      have completes : applying.before.fsm.Completes applying.label.event etag :=
        ⟨running, version, now, stateAt, eventAt⟩
      cases change with
      | kept _ _ incomplete => exact absurd completes (incomplete etag)
      | forgotten cause _ _ =>
        obtain ⟨_, clock, resync⟩ := cause
        rw [eventAt] at resync
        cases resync
      | saved other cause _ appliedAt countAt =>
        obtain ⟨_, _, _, _, otherAt⟩ := cause
        rw [eventAt] at otherAt
        cases otherAt
        exact ⟨appliedAt, countAt⟩
      | unsaved _ _ forced => exact absurd unforced forced
    · intro index between after before found remembered
      have change := Answered.appliedChange (isRun.accepted_at found)
      refine change.remembers remembered ?_ ?_
      · intro resyncs
        exact nothing ⟨index, between, after, before, found, Or.inl resyncs⟩
      · intro other completes
        by_contra different
        exact nothing ⟨index, between, after, before, found,
          Or.inr ⟨other, different, completes⟩⟩
  · have stays := isRun.persists (fun session => session.fsm.state = .stopped)
      foundApplying foundReapplying ordered (stopped_of_accepted accepted stopped).1
      (fun _ _ _ _ found halted => (stopped_of_accepted (isRun.accepted_at found) halted).1)
    rw [(stopped_of_accepted (isRun.accepted_at foundReapplying) stays).2] at emitted
    cases emitted

/-! ### How often a resync lets the same artifact through -/

/-- A forced fetch is pending only while nothing is remembered as applied, and
an update being applied differs from what is remembered. -/
structure Fsm.Settled (fsm : Fsm) : Prop where
  bounded : fsm.ctx.forceUnconditionalCount ≤ 2
  forgotten : fsm.ctx.forceUnconditionalCount ≠ 0 → fsm.ctx.lastAppliedEtag = none
  fresh : ∀ update, fsm.state = .applying update → fsm.ctx.lastAppliedEtag ≠ some update.etag

theorem Fsm.settled_boot (lkgEtag : Option Text) : (boot lkgEtag).Settled :=
  { bounded := Nat.zero_le 2
    forgotten := fun forced => absurd rfl forced
    fresh := fun _ applying => nomatch applying }

theorem Transition.applying_fresh (transition : Transition draw fsm event result)
    (settled : fsm.Settled) (update : VerifiedUpdate)
    (applying : result.1.state = .applying update) :
    result.1.ctx.lastAppliedEtag ≠ some update.etag := by
  cases transition with
  | applies data ctx other now fresh =>
    cases applying
    simpa using fresh
  | ignored => exact settled.fresh update applying
  | _ => cases applying

theorem Transition.settled (transition : Transition draw fsm event result) (settled : fsm.Settled) :
    result.1.Settled := by
  have fresh := transition.applying_fresh settled
  have bounded := settled.bounded
  cases transition.appliedChange with
  | kept appliedAt =>
    exact ⟨by omega, fun forced => appliedAt.trans (settled.forgotten (by omega)), fresh⟩
  | forgotten _ appliedAt => exact ⟨by omega, fun _ => appliedAt, fresh⟩
  | saved _ _ _ appliedAt countAt => exact ⟨by omega, fun forced => absurd countAt forced, fresh⟩
  | unsaved _ _ forced appliedAt =>
    exact ⟨by omega, fun _ => appliedAt.trans (settled.forgotten forced), fresh⟩

/-- The completed applies of `etag` still possible without a resync and
without another artifact. -/
def Context.applyBudget (ctx : Context) (etag : Text) : Nat :=
  if ctx.lastAppliedEtag = some etag then 0 else ctx.forceUnconditionalCount + 1

def Answered.completesApply (step : Answered) : Bool :=
  match step.before.fsm.state, step.label.event with
  | .applying _, .applyOk _ _ _ => true
  | _, _ => false

theorem Answered.completesApply_iff (step : Answered) :
    step.completesApply = true ↔
      ∃ etag, step.before.fsm.Completes step.label.event etag := by
  unfold completesApply Fsm.Completes
  split
  · rename_i update etag version now stateAt eventAt
    simp [stateAt, eventAt]
  · rename_i other
    constructor
    · intro impossible
      cases impossible
    · intro completes
      obtain ⟨etag, update, version, now, stateAt, eventAt⟩ := completes
      exact absurd eventAt (other update etag version now stateAt)

theorem applyBudget_paid (accepted : step.Accepted Session.step) (coherent : step.before.Coherent)
    (settled : step.before.fsm.Settled) (unresynced : ¬step.before.fsm.Resyncs step.label.event)
    (same : ∀ other, step.before.fsm.Completes step.label.event other → other = etag) :
    step.completesApply.toNat + step.after.fsm.ctx.applyBudget etag ≤
      step.before.fsm.ctx.applyBudget etag := by
  have counted := step.completesApply_iff
  have spent (other : Text) (completes : step.before.fsm.Completes step.label.event other) :
      step.completesApply = true ∧ other = etag ∧
        step.before.fsm.ctx.lastAppliedEtag ≠ some etag := by
    have equal := same other completes
    refine ⟨counted.mpr ⟨other, completes⟩, equal, ?_⟩
    obtain ⟨update, version, now, stateAt, eventAt⟩ := completes
    rcases Session.applyOk_state accepted coherent eventAt with
      ⟨running, runningAt, sameEtag⟩ | stopped
    · rw [← equal, ← sameEtag]
      exact settled.fresh running runningAt
    · rw [stopped] at stateAt
      cases stateAt
  unfold Context.applyBudget
  cases Answered.appliedChange accepted with
  | kept appliedAt countAt incomplete =>
    have uncounted : step.completesApply = false := by
      rw [← Bool.not_eq_true, counted]
      intro completion
      obtain ⟨other, completes⟩ := completion
      exact incomplete other completes
    rw [uncounted, Bool.toNat_false, appliedAt]
    split <;> omega
  | forgotten cause => exact absurd cause unresynced
  | saved other cause _ appliedAt =>
    obtain ⟨isCounted, equal, fresh⟩ := spent other cause
    subst equal
    rw [isCounted, if_pos appliedAt, if_neg fresh, Bool.toNat_true]
    omega
  | unsaved other cause forced appliedAt countAt =>
    obtain ⟨isCounted, _, fresh⟩ := spent other cause
    rw [isCounted, appliedAt, if_neg fresh, if_neg fresh, countAt, Bool.toNat_true]
    omega

theorem completed_applies_bounded {lkgEtag : Option Text} {front middle back : List Answered}
    (isRun : IsRun Session.step (Session.boot lkgEtag) (front ++ middle ++ back)) (etag : Text)
    (unresynced : ∀ step ∈ middle, ¬step.before.fsm.Resyncs step.label.event)
    (same : ∀ step ∈ middle, ∀ other,
      step.before.fsm.Completes step.label.event other → other = etag) :
    middle.countP Answered.completesApply ≤ 3 := by
  have preserved : ∀ step : Answered, step.Accepted Session.step →
      step.before.Coherent ∧ step.before.fsm.Settled →
      step.after.Coherent ∧ step.after.fsm.Settled :=
    fun step accepted both =>
      ⟨Session.coherent_step accepted both.1, (Answered.transition accepted).settled both.2⟩
  obtain ⟨state, visits, isRunMiddle⟩ := isRun.append_left.append_right
  have invariant := isRun.append_left.append_left.invariant_visited
    (fun session => session.Coherent ∧ session.fsm.Settled)
    ⟨Session.coherent_boot lkgEtag, Fsm.settled_boot lkgEtag⟩ preserved visits
  have bound := isRunMiddle.countP_le (fun session => session.Coherent ∧ session.fsm.Settled)
    invariant preserved Answered.completesApply (fun _ => 0)
    (fun session => session.fsm.ctx.applyBudget etag)
    (fun step member accepted both => by
      have paid :=
        applyBudget_paid accepted both.1 both.2 (unresynced step member) (same step member)
      omega)
  have limited : state.fsm.ctx.applyBudget etag ≤ 3 := by
    have bounded := invariant.2.bounded
    unfold Context.applyBudget
    split <;> omega
  omega

/-- Every second apply of an artifact has the apply of another one before it. -/
def ReapplyNeedsOther (steps : List Answered) : Prop :=
  ∀ (first last : Nat) (applying reapplying : Answered) (etag : Text)
    (version : Option ConfigVersion) (now : Instant) (update : VerifiedUpdate),
    first < last → steps[first]? = some applying → steps[last]? = some reapplying →
    applying.label.event = .applyOk etag version now →
    Effect.apply update ∈ reapplying.output → update.etag = etag →
    ∃ (index : Nat) (between : Answered), first < index ∧ index < last ∧
      steps[index]? = some between ∧
      ∃ other version now, other ≠ etag ∧ between.label.event = .applyOk other version now

def verified (etag : String) (now : Instant) : Input :=
  ⟨.verifyOk ⟨literal etag, none, none, literal "lkg.tmp.pvs"⟩ now, 0⟩

def resyncedArtifact : List Input :=
  [⟨.start 0, 0⟩,
    offer "sha256:a" 1,
    verified "sha256:a" 2,
    ⟨.applyOk (literal "sha256:a") none 3, 0⟩,
    ⟨.response .needResync 4, 0⟩,
    offer "sha256:a" 5,
    verified "sha256:a" 6]

theorem resync_reapplies_running_artifact :
    IsRun Session.step (Session.boot none)
        (trace Session.step (Session.boot none) resyncedArtifact) ∧
      ¬ReapplyNeedsOther (trace Session.step (Session.boot none) resyncedArtifact) := by
  refine ⟨trace_isRun _ _ _, ?_⟩
  intro claimed
  obtain ⟨index, between, after, before, found, other, version, now, _, eventAt⟩ :=
    claimed 3 6 _ _ (literal "sha256:a") none 3
      ⟨literal "sha256:a", none, none, literal "lkg.tmp.pvs"⟩
      (by decide) rfl rfl rfl (by decide) rfl
  have position : index = 4 ∨ index = 5 := by omega
  rcases position with rfl | rfl
  all_goals
    cases found
    cases eventAt

theorem reapply_limited (lkgEtag : Option Text) (steps : List Answered)
    (isRun : IsRun Session.step (Session.boot lkgEtag) steps) :
    (∀ (first last : Nat) (applying reapplying : Answered) (etag : Text)
        (version : Option ConfigVersion) (now : Instant) (update : VerifiedUpdate),
      first < last → steps[first]? = some applying → steps[last]? = some reapplying →
      applying.label.event = .applyOk etag version now →
      applying.before.fsm.ctx.forceUnconditionalCount = 0 →
      Effect.apply update ∈ reapplying.output → update.etag = etag →
      ∃ (index : Nat) (between : Answered), first < index ∧ index < last ∧
        steps[index]? = some between ∧
        ((∃ now, between.label.event = .response .needResync now) ∨
          ∃ other version now, other ≠ etag ∧
            between.label.event = .applyOk other version now)) ∧
    (∀ (front middle back : List Answered) (etag : Text), steps = front ++ middle ++ back →
      (∀ step ∈ middle, ∀ now, step.label.event ≠ .response .needResync now) →
      (∀ step ∈ middle, ∀ other version now,
        step.label.event = .applyOk other version now → other = etag) →
      middle.countP Answered.completesApply ≤ 3) := by
  constructor
  · intro first last applying reapplying etag version now update ordered foundApplying
      foundReapplying eventAt unforced emitted same
    obtain ⟨index, between, after, before, found, cause⟩ := reapply_needs_change isRun ordered
      foundApplying foundReapplying eventAt unforced emitted same
    refine ⟨index, between, after, before, found, ?_⟩
    rcases cause with ⟨_, resync⟩ | ⟨other, different, update, version, now, _, completed⟩
    · exact Or.inl resync
    · exact Or.inr ⟨other, version, now, different, completed⟩
  · rintro front middle back etag rfl unresynced same
    refine completed_applies_bounded isRun etag ?_ ?_
    · intro step member resyncs
      obtain ⟨_, now, resync⟩ := resyncs
      exact unresynced step member now resync
    · intro step member other completes
      obtain ⟨_, version, now, _, eventAt⟩ := completes
      exact same step member other version now eventAt

def rolledBackArtifact : List Input :=
  [⟨.start 0, 0⟩,
    offer "sha256:a" 1,
    verified "sha256:a" 2,
    ⟨.applyOk (literal "sha256:a") none 3, 0⟩,
    offer "sha256:b" 4,
    verified "sha256:b" 5,
    ⟨.applyOk (literal "sha256:b") none 6, 0⟩,
    offer "sha256:a" 7,
    verified "sha256:a" 8]

theorem reapply_limited_rolledBackArtifact :
    ∃ (index : Nat) (between : Answered), 3 < index ∧ index < 8 ∧
      (trace Session.step (Session.boot none) rolledBackArtifact)[index]? = some between ∧
      ((∃ now, between.label.event = .response .needResync now) ∨
        ∃ other version now, other ≠ literal "sha256:a" ∧
          between.label.event = .applyOk other version now) :=
  (reapply_limited none (trace Session.step (Session.boot none) rolledBackArtifact)
    (trace_isRun _ _ _)).1 3 8 _ _ (literal "sha256:a") none 3
    ⟨literal "sha256:a", none, none, literal "lkg.tmp.pvs"⟩
    (by decide) rfl rfl rfl rfl (by decide) rfl

end Pavis.Agent
