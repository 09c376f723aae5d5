/-
Rejected artifacts.

A failed verification or a failed apply stores the etag together with the
instant at which the rejection expires.
-/

import Pavis.Agent.FsmRuns

namespace Pavis.Agent

open ByteText LabelledRun

def Fsm.Rejects (fsm : Fsm) (event : Event) (etag : Text) (now : Instant) : Prop :=
  (∃ data, fsm.state = .verifying data ∧ event = .verifyFail etag now) ∨
    (∃ update, fsm.state = .applying update ∧ event = .applyFail etag now)

def Fsm.Resyncs (fsm : Fsm) (event : Event) : Prop :=
  fsm.state = .fetching ∧ ∃ now, event = .response .needResync now

def Fsm.Completes (fsm : Fsm) (event : Event) (etag : Text) : Prop :=
  ∃ update version now, fsm.state = .applying update ∧ event = .applyOk etag version now

/-- Every way a tick can leave the stored rejection. -/
inductive RejectionChange (fsm : Fsm) (event : Event) (ctx : Context) : Prop where
  | kept (etagAt : ctx.lastRejectedEtag = fsm.ctx.lastRejectedEtag)
      (untilAt : ctx.lastRejectedUntil = fsm.ctx.lastRejectedUntil)
  | expired (now deadline : Instant) (clock : event.now? = some now)
      (storedUntil : fsm.ctx.lastRejectedUntil = some deadline) (passed : deadline ≤ now)
      (etagAt : ctx.lastRejectedEtag = none) (untilAt : ctx.lastRejectedUntil = none)
  | forgotten (cause : fsm.Resyncs event ∨ ∃ etag, fsm.Completes event etag)
      (etagAt : ctx.lastRejectedEtag = none) (untilAt : ctx.lastRejectedUntil = none)
  | stored (etag : Text) (now : Instant) (cause : fsm.Rejects event etag now)
      (etagAt : ctx.lastRejectedEtag = some etag)
      (untilAt : ctx.lastRejectedUntil = some (now + rejectTtl))

variable {fsm : Fsm} {event : Event} {ctx : Context} {draw : Nat} {result : Fsm × List Effect}

theorem RejectionChange.of_cleared (now : Instant) (clock : event.now? = some now)
    (etagAt : ctx.lastRejectedEtag = (fsm.ctx.clearRejectedIfExpired now).lastRejectedEtag)
    (untilAt : ctx.lastRejectedUntil = (fsm.ctx.clearRejectedIfExpired now).lastRejectedUntil) :
    RejectionChange fsm event ctx := by
  rcases fsm.ctx.clearRejectedIfExpired_rejection now with
    ⟨keptEtag, keptUntil, _⟩ | ⟨noEtag, noUntil, deadline, stored, passed⟩
  · exact .kept (etagAt.trans keptEtag) (untilAt.trans keptUntil)
  · exact .expired now deadline clock stored passed (etagAt.trans noEtag) (untilAt.trans noUntil)

theorem Transition.rejectionChange (transition : Transition draw fsm event result) :
    RejectionChange fsm event result.1.ctx := by
  cases transition with
  | started _ now | verifies _ _ _ _ _ now | unavailable _ now | applies _ _ _ now =>
    exact .of_cleared now rfl rfl rfl
  | resumed _ _ now | skipped _ _ _ _ _ now | polledAgain _ now | duplicate _ _ _ now =>
    exact .of_cleared now rfl (by simp) (by simp)
  | resynced ctx now => exact .forgotten (Or.inl ⟨rfl, now, rfl⟩) rfl rfl
  | verifyRejected data ctx etag now =>
    exact .stored etag now (Or.inl ⟨data, rfl, rfl⟩) rfl rfl
  | applyRejected update ctx etag now =>
    exact .stored etag now (Or.inr ⟨update, rfl, rfl⟩) rfl rfl
  | applied update ctx etag version now =>
    refine .forgotten (Or.inr ⟨etag, update, version, now, rfl, rfl⟩) ?_ ?_
    · simp [Context.onApplyOk, Context.clearRejectedIfExpired]
    · simp [Context.onApplyOk, Context.clearRejectedIfExpired]
  | halted | ignored => exact .kept rfl rfl

/-- Both halves of the rejection are present or both are absent. -/
def Context.RejectionPaired (ctx : Context) : Prop :=
  ctx.lastRejectedEtag.isSome = ctx.lastRejectedUntil.isSome

theorem RejectionChange.paired (change : RejectionChange fsm event ctx)
    (paired : fsm.ctx.RejectionPaired) : ctx.RejectionPaired := by
  unfold Context.RejectionPaired at paired ⊢
  cases change with
  | kept etagAt untilAt => rw [etagAt, untilAt, paired]
  | expired _ _ _ _ _ etagAt untilAt | forgotten _ etagAt untilAt | stored _ _ _ etagAt untilAt =>
    rw [etagAt, untilAt]
    rfl

variable {lkgEtag : Option Text} {steps : List Tick}

private theorem paired_of_visits (isRun : IsRun tickMachine (Fsm.boot lkgEtag) steps)
    (visits : Visits (Fsm.boot lkgEtag) steps fsm) : fsm.ctx.RejectionPaired :=
  isRun.invariant_visited (fun fsm => fsm.ctx.RejectionPaired) rfl
    (fun _ accepted => (transition_of_accepted accepted).rejectionChange.paired) visits

def Context.RejectedUntil (ctx : Context) (etag : Text) (deadline : Instant) : Prop :=
  ctx.lastRejectedEtag = some etag ∧
    ∃ stored, ctx.lastRejectedUntil = some stored ∧ deadline ≤ stored

variable {etag : Text} {start deadline now : Instant} {version : Option ConfigVersion}
  {size : Option Nat} {bytes : Bytes}

theorem RejectionChange.rejectedUntil (change : RejectionChange fsm event ctx)
    (rejected : fsm.ctx.RejectedUntil etag deadline) (notEarlier : deadline ≤ start + rejectTtl)
    (clock : ∀ now, event.now? = some now → start ≤ now ∧ now < deadline)
    (unresynced : ¬fsm.Resyncs event) (unapplied : ¬∃ etag, fsm.Completes event etag)
    (unreplaced : ∀ other now, other ≠ etag → ¬fsm.Rejects event other now) :
    ctx.RejectedUntil etag deadline := by
  obtain ⟨storedEtag, stored, storedUntil, covers⟩ := rejected
  cases change with
  | kept etagAt untilAt =>
    exact ⟨etagAt.trans storedEtag, stored, untilAt.trans storedUntil, covers⟩
  | expired now expiry clockAt expiryAt passed =>
    rw [storedUntil] at expiryAt
    cases expiryAt
    have before := (clock now clockAt).2
    exact absurd (Nat.lt_of_lt_of_le before (Nat.le_trans covers passed)) (Nat.lt_irrefl now)
  | forgotten cause => exact absurd cause (not_or.mpr ⟨unresynced, unapplied⟩)
  | stored other now cause etagAt untilAt =>
    by_cases same : other = etag
    · subst same
      have clockAt : event.now? = some now := by
        rcases cause with ⟨_, _, rfl⟩ | ⟨_, _, rfl⟩ <;> rfl
      refine ⟨etagAt, now + rejectTtl, untilAt, Nat.le_trans notEarlier ?_⟩
      exact Nat.add_le_add_right (clock now clockAt).1 rejectTtl
    · exact absurd cause (unreplaced other now same)

theorem Transition.verify_emitted (transition : Transition draw fsm event result)
    (emitted : Effect.verify etag version size bytes ∈ result.2) :
    ∃ now, event = .response (.newArtifact etag version size bytes) now ∧
      (fsm.ctx.clearRejectedIfExpired now).skips etag now = false := by
  have notFetch (ctx : Context) (now : Instant) :
      Effect.verify etag version size bytes ≠ (ctx.nextFetch now).2 := ctx.ne_nextFetch now rfl
  cases transition with
  | verifies ctx otherEtag otherVersion otherSize otherBytes now unskipped =>
    simp only [List.mem_singleton, Effect.verify.injEq] at emitted
    obtain ⟨rfl, rfl, rfl, rfl⟩ := emitted
    exact ⟨now, rfl, unskipped⟩
  | applied =>
    simp [Context.onApplyOk, notFetch] at emitted
  | verifyRejected | applyRejected =>
    simp [Context.onReject, Context.sleepBackoff] at emitted
  | unavailable => simp [Context.sleepBackoff] at emitted
  | _ => simp [notFetch] at emitted

theorem Transition.verify_not_rejected (transition : Transition draw fsm event result)
    (emitted : Effect.verify etag version size bytes ∈ result.2) (clock : event.now? = some now)
    (pending : now < deadline) : ¬fsm.ctx.RejectedUntil etag deadline := by
  intro rejected
  obtain ⟨storedEtag, stored, storedUntil, covers⟩ := rejected
  obtain ⟨clocked, rfl, unskipped⟩ := transition.verify_emitted emitted
  cases clock
  have before : now < stored := Nat.lt_of_lt_of_le pending covers
  rw [fsm.ctx.clearRejectedIfExpired_of_pending now stored storedUntil before] at unskipped
  have skips := (fsm.ctx.skips_iff etag now).mpr ⟨storedEtag, stored, storedUntil, before⟩
  rw [skips] at unskipped
  cases unskipped

/-- The stored rejection, when it is one of `etag`, expires at `deadline`. -/
def Context.ExpiresAt (ctx : Context) (etag : Text) (deadline : Instant) : Prop :=
  ctx.lastRejectedEtag = some etag → ctx.lastRejectedUntil = some deadline

theorem RejectionChange.expiresAt (change : RejectionChange fsm event ctx)
    (expires : fsm.ctx.ExpiresAt etag deadline) (unrejected : ∀ now, ¬fsm.Rejects event etag now) :
    ctx.ExpiresAt etag deadline := by
  intro storedEtag
  cases change with
  | kept etagAt untilAt => exact untilAt.trans (expires (etagAt.symm.trans storedEtag))
  | expired now expiry clock storedUntil passed etagAt | forgotten cause etagAt =>
    rw [etagAt] at storedEtag
    cases storedEtag
  | stored other now cause etagAt =>
    rw [etagAt] at storedEtag
    cases storedEtag
    exact absurd cause (unrejected now)

variable {wait : Nat}

theorem Transition.conditional_emitted (transition : Transition draw fsm event result)
    (emitted : Effect.fetchConditional wait etag ∈ result.2) :
    ∃ now, event.now? = some now ∧
      ((fsm.ctx.clearRejectedIfExpired now).lastRejectedEtag = some etag ∨
        result.1.ctx.lastAppliedEtag = some etag) := by
  cases transition with
  | resumed | skipped | polledAgain =>
    simp only [Context.resumeFetching_effects, List.mem_singleton] at emitted
    have carried := Context.nextFetch_conditional _ _ wait etag emitted.symm
    exact ⟨_, rfl, by simpa using carried⟩
  | duplicate data ctx update now =>
    simp only [Context.resumeFetching_effects, List.mem_cons, reduceCtorEq, List.not_mem_nil,
      or_false, false_or] at emitted
    have carried := Context.nextFetch_conditional _ now wait etag emitted.symm
    exact ⟨now, rfl, by simpa using carried⟩
  | applied update ctx other version now =>
    simp only [Context.onApplyOk, Context.resumeFetching_effects, List.mem_singleton] at emitted
    rcases Context.nextFetch_conditional _ now wait etag emitted.symm with rejected | appliedEtag
    · simp [Context.clearRejectedIfExpired] at rejected
    · exact ⟨now, rfl, Or.inr (by simpa [Context.onApplyOk] using appliedEtag)⟩
  | verifyRejected | applyRejected =>
    simp [Context.onReject, Context.sleepBackoff] at emitted
  | unavailable => simp [Context.sleepBackoff] at emitted
  | _ => simp at emitted

theorem Transition.conditional_after_expiry (transition : Transition draw fsm event result)
    (emitted : Effect.fetchConditional wait etag ∈ result.2) (clock : event.now? = some now)
    (passed : deadline ≤ now) (expires : fsm.ctx.ExpiresAt etag deadline) :
    result.1.ctx.lastAppliedEtag = some etag := by
  obtain ⟨clocked, clockAt, carried⟩ := transition.conditional_emitted emitted
  rw [clock] at clockAt
  cases clockAt
  rcases carried with rejected | appliedEtag
  · rcases fsm.ctx.clearRejectedIfExpired_rejection now with ⟨keptEtag, _, pending⟩ | ⟨noEtag, _⟩
    · have before := pending deadline (expires (keptEtag.symm.trans rejected))
      exact absurd (Nat.lt_of_lt_of_le before passed) (Nat.lt_irrefl now)
    · rw [noEtag] at rejected
      cases rejected
  · exact appliedEtag

/-! ### Whole runs -/

/-- The clock readings of the events never go back. -/
def MonotoneClock {σ ω : Type} (steps : List (Step σ Input ω)) : Prop :=
  (steps.filterMap (fun step => step.label.event.now?)).Pairwise (· ≤ ·)

variable {first last : Nat} {finish : Instant}

theorem MonotoneClock.ordered (clock : MonotoneClock steps) (before : first < last)
    {earlier later : Tick} (foundEarlier : steps[first]? = some earlier)
    (foundLater : steps[last]? = some later) (startAt : earlier.label.event.now? = some start)
    (finishAt : later.label.event.now? = some finish) : start ≤ finish := by
  obtain ⟨firstBound, rfl⟩ := List.getElem?_eq_some_iff.mp foundEarlier
  obtain ⟨lastBound, rfl⟩ := List.getElem?_eq_some_iff.mp foundLater
  have pairwise := List.pairwise_filterMap.mp clock
  exact List.pairwise_iff_getElem.mp pairwise first last firstBound lastBound before
    start startAt finish finishAt

theorem Fsm.Rejects.clock (rejects : fsm.Rejects event etag now) : event.now? = some now := by
  rcases rejects with ⟨_, _, rfl⟩ | ⟨_, _, rfl⟩ <;> rfl

theorem rejects_stores {step : Tick} (accepted : step.Accepted tickMachine)
    (rejects : step.before.Rejects step.label.event etag now) :
    step.after.ctx.lastRejectedEtag = some etag ∧
      step.after.ctx.lastRejectedUntil = some (now + rejectTtl) := by
  have ticked : step.before.tick step.label.draw step.label.event = (step.after, step.output) :=
    Option.some.inj accepted
  have after : step.after = (step.before.ctx.onReject step.label.draw etag now).1 := by
    rcases rejects with ⟨data, stateAt, eventAt⟩ | ⟨update, stateAt, eventAt⟩
    all_goals
      simp only [Fsm.tick, stateAt, eventAt] at ticked
      rw [ticked]
  rw [after]
  exact ⟨rfl, rfl⟩

/-- Within the time to live of a rejection the etag is verified again only
after a resync, a successful apply or the rejection of another etag. -/
theorem verify_after_rejection (isRun : IsRun tickMachine (Fsm.boot lkgEtag) steps)
    (clock : MonotoneClock steps) (ordered : first < last) {rejecting verifying : Tick}
    (foundRejecting : steps[first]? = some rejecting)
    (foundVerifying : steps[last]? = some verifying)
    (rejects : rejecting.before.Rejects rejecting.label.event etag start)
    (emitted : Effect.verify etag version size bytes ∈ verifying.output)
    (finishAt : verifying.label.event.now? = some finish) (within : finish < start + rejectTtl) :
    ∃ index between, first < index ∧ index < last ∧ steps[index]? = some between ∧
      (between.before.Resyncs between.label.event ∨
        (∃ other, between.before.Completes between.label.event other) ∨
        ∃ other now, other ≠ etag ∧ between.before.Rejects between.label.event other now) := by
  by_contra nothing
  have transition := transition_of_accepted (isRun.accepted_at foundVerifying)
  apply transition.verify_not_rejected emitted finishAt within
  refine isRun.persists (fun fsm => fsm.ctx.RejectedUntil etag (start + rejectTtl))
    foundRejecting foundVerifying ordered ?_ ?_
  · obtain ⟨storedEtag, storedUntil⟩ := rejects_stores (isRun.accepted_at foundRejecting) rejects
    exact ⟨storedEtag, start + rejectTtl, storedUntil, Nat.le_refl _⟩
  · intro index between after before found rejected
    have change := (transition_of_accepted (isRun.accepted_at found)).rejectionChange
    refine change.rejectedUntil rejected (Nat.le_refl _) ?_ ?_ ?_ ?_
    · intro now clockAt
      exact ⟨clock.ordered after foundRejecting found rejects.clock clockAt,
        Nat.lt_of_le_of_lt (clock.ordered before found foundVerifying clockAt finishAt) within⟩
    · intro resyncs
      exact nothing ⟨index, between, after, before, found, Or.inl resyncs⟩
    · intro completes
      exact nothing ⟨index, between, after, before, found, Or.inr (Or.inl completes)⟩
    · intro other now different replaced
      exact nothing ⟨index, between, after, before, found,
        Or.inr (Or.inr ⟨other, now, different, replaced⟩)⟩

/-- From the expiry of its last rejection on, a conditional fetch carries the
etag only as the applied one. -/
theorem conditional_fetch_after_expiry (isRun : IsRun tickMachine (Fsm.boot lkgEtag) steps)
    (ordered : first < last) {rejecting fetching : Tick}
    (foundRejecting : steps[first]? = some rejecting) (foundFetching : steps[last]? = some fetching)
    (rejects : rejecting.before.Rejects rejecting.label.event etag start)
    (latest : ∀ index between now, first < index → index < last → steps[index]? = some between →
      ¬between.before.Rejects between.label.event etag now)
    (emitted : Effect.fetchConditional wait etag ∈ fetching.output)
    (finishAt : fetching.label.event.now? = some finish) (passed : start + rejectTtl ≤ finish) :
    fetching.after.ctx.lastAppliedEtag = some etag := by
  have transition := transition_of_accepted (isRun.accepted_at foundFetching)
  apply transition.conditional_after_expiry emitted finishAt passed
  refine isRun.persists (fun fsm => fsm.ctx.ExpiresAt etag (start + rejectTtl))
    foundRejecting foundFetching ordered ?_ ?_
  · intro _
    exact (rejects_stores (isRun.accepted_at foundRejecting) rejects).2
  · intro index between after before found expires
    have change := (transition_of_accepted (isRun.accepted_at found)).rejectionChange
    exact change.expiresAt expires (fun now => latest index between now after before found)

theorem rejection_honoured (lkgEtag : Option Text) (steps : List Tick)
    (isRun : IsRun tickMachine (Fsm.boot lkgEtag) steps) (clock : MonotoneClock steps) :
    (∀ (first last : Nat) (rejecting verifying : Tick) (etag : Text) (start finish : Instant)
        (version : Option ConfigVersion) (size : Option Nat) (bytes : Bytes),
      first < last → steps[first]? = some rejecting → steps[last]? = some verifying →
      rejecting.before.Rejects rejecting.label.event etag start →
      Effect.verify etag version size bytes ∈ verifying.output →
      verifying.label.event.now? = some finish → start ≤ finish → finish < start + rejectTtl →
      ∃ (index : Nat) (between : Tick), first < index ∧ index < last ∧
        steps[index]? = some between ∧
        (between.before.Resyncs between.label.event ∨
          (∃ other, between.before.Completes between.label.event other) ∨
          ∃ other now, other ≠ etag ∧ between.before.Rejects between.label.event other now)) ∧
    (∀ fsm, Visits (Fsm.boot lkgEtag) steps fsm →
      fsm.ctx.lastRejectedEtag.isSome = fsm.ctx.lastRejectedUntil.isSome) ∧
    (∀ (first last : Nat) (rejecting fetching : Tick) (etag : Text) (start finish : Instant)
        (wait : Nat),
      first < last → steps[first]? = some rejecting → steps[last]? = some fetching →
      rejecting.before.Rejects rejecting.label.event etag start →
      (∀ (index : Nat) (between : Tick) (now : Instant),
        first < index → index < last → steps[index]? = some between →
        ¬between.before.Rejects between.label.event etag now) →
      Effect.fetchConditional wait etag ∈ fetching.output →
      fetching.label.event.now? = some finish → start + rejectTtl ≤ finish →
      fetching.after.ctx.lastAppliedEtag = some etag) := by
  refine ⟨?_, ?_, ?_⟩
  · intro first last rejecting verifying etag start finish version size bytes ordered
      foundRejecting foundVerifying rejects emitted finishAt _ within
    exact verify_after_rejection isRun clock ordered foundRejecting foundVerifying rejects emitted
      finishAt within
  · intro fsm visits
    exact paired_of_visits isRun visits
  · intro first last rejecting fetching etag start finish wait ordered foundRejecting foundFetching
      rejects latest emitted finishAt passed
    exact conditional_fetch_after_expiry isRun ordered foundRejecting foundFetching rejects latest
      emitted finishAt passed

def offer (etag : String) (now : Instant) : Input :=
  ⟨.response (.newArtifact (literal etag) none none []) now, 0⟩

def replacedRejection : List Input :=
  [⟨.start 0, 0⟩,
    offer "sha256:a" 1,
    ⟨.verifyFail (literal "sha256:a") 2, 0⟩,
    ⟨.timerFired 3, 0⟩,
    offer "sha256:b" 4,
    ⟨.verifyFail (literal "sha256:b") 5, 0⟩,
    ⟨.timerFired 6, 0⟩,
    offer "sha256:a" 7]

theorem rejection_honoured_replacedRejection :
    ∃ (index : Nat) (between : Tick), 2 < index ∧ index < 7 ∧
      (trace tickMachine (Fsm.boot none) replacedRejection)[index]? = some between ∧
      (between.before.Resyncs between.label.event ∨
        (∃ other, between.before.Completes between.label.event other) ∨
        ∃ other now, other ≠ literal "sha256:a" ∧
          between.before.Rejects between.label.event other now) :=
  (rejection_honoured none (trace tickMachine (Fsm.boot none) replacedRejection)
    (trace_isRun _ _ _) (by unfold MonotoneClock; decide)).1 2 7 _ _ (literal "sha256:a") 2 7
    none none [] (by decide) rfl rfl (Or.inl ⟨_, rfl, rfl⟩) (by decide) rfl (by decide) (by decide)

end Pavis.Agent
