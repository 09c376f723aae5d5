/-
The fetch that follows a disposed artifact.

The next fetch names the artifact, so that a relay which still has nothing else
holds the request, except after a duplicate found while another artifact is
rejected.
-/

import Pavis.Agent.Deduplication

namespace Pavis.Agent

open ByteText LabelledRun

/-- The artifact of a response is done with: skipped as rejected, recognised
as the applied one after verification, or applied. -/
inductive Fsm.Disposes (fsm : Fsm) (event : Event) : Text → Prop where
  | skipped (etag : Text) (version : Option ConfigVersion) (size : Option Nat) (bytes : Bytes)
      (now : Instant) (stateAt : fsm.state = .fetching)
      (eventAt : event = .response (.newArtifact etag version size bytes) now)
      (skips : (fsm.ctx.clearRejectedIfExpired now).skips etag now = true) :
      Disposes fsm event etag
  | duplicate (data : VerifyingData) (update : VerifiedUpdate) (now : Instant)
      (stateAt : fsm.state = .verifying data) (eventAt : event = .verifyOk update now)
      (applied : fsm.ctx.lastAppliedEtag = some update.etag) : Disposes fsm event update.etag
  | applied (etag : Text) (completes : fsm.Completes event etag) : Disposes fsm event etag

def Fsm.VerifiedUnderRejection (fsm : Fsm) (event : Event) : Prop :=
  ∃ data update now deadline, fsm.state = .verifying data ∧ event = .verifyOk update now ∧
    fsm.ctx.lastRejectedUntil = some deadline ∧ now < deadline

def Fsm.VerifiesUnrejected (fsm : Fsm) : Prop :=
  ∀ data, fsm.state = .verifying data → fsm.ctx.lastRejectedEtag ≠ some data.etag

theorem Context.unskipped_unrejected (ctx : Context) (paired : ctx.RejectionPaired) (etag : Text)
    (now : Instant) (unskipped : (ctx.clearRejectedIfExpired now).skips etag now = false) :
    (ctx.clearRejectedIfExpired now).lastRejectedEtag ≠ some etag := by
  intro rejected
  rcases ctx.clearRejectedIfExpired_rejection now with
    ⟨keptEtag, keptUntil, pending⟩ | ⟨noEtag, _, _⟩
  · unfold RejectionPaired at paired
    rw [← keptEtag, rejected] at paired
    obtain ⟨deadline, untilAt⟩ := Option.isSome_iff_exists.mp paired.symm
    have skips := ((ctx.clearRejectedIfExpired now).skips_iff etag now).mpr
      ⟨rejected, deadline, keptUntil.trans untilAt, pending deadline untilAt⟩
    rw [skips] at unskipped
    cases unskipped
  · rw [noEtag] at rejected
    cases rejected

theorem Transition.verifiesUnrejected {draw : Nat} {fsm : Fsm} {event : Event}
    {result : Fsm × List Effect} (transition : Transition draw fsm event result)
    (paired : fsm.ctx.RejectionPaired) (unrejected : fsm.VerifiesUnrejected) :
    result.1.VerifiesUnrejected := by
  intro data verifying
  cases transition with
  | verifies ctx etag version size bytes now unskipped =>
    cases verifying
    exact ctx.unskipped_unrejected paired etag now unskipped
  | ignored => exact unrejected data verifying
  | _ => cases verifying

theorem Session.unrejected_before {lkgEtag : Option Text} {steps : List Answered}
    (isRun : IsRun step (boot lkgEtag) steps) {index : Nat} {step : Answered}
    (found : steps[index]? = some step) :
    step.before.fsm.ctx.RejectionPaired ∧ step.before.fsm.VerifiesUnrejected :=
  isRun.invariant_before
    (fun session => session.fsm.ctx.RejectionPaired ∧ session.fsm.VerifiesUnrejected)
    ⟨rfl, fun _ verifying => nomatch verifying⟩
    (fun _ accepted invariant =>
      have transition := Answered.transition accepted
      ⟨transition.rejectionChange.paired invariant.1,
        transition.verifiesUnrejected invariant.1 invariant.2⟩)
    found

theorem Context.skipped_fetch (ctx : Context) (etag : Text) (now : Instant)
    (unforced : ctx.forceUnconditionalCount = 0)
    (skips : (ctx.clearRejectedIfExpired now).skips etag now = true) :
    ((ctx.clearRejectedIfExpired now).resetBackoff.nextFetch now).2 =
      .fetchConditional waitMs etag := by
  apply nextFetch_of_rejected _ now etag (by simpa using unforced)
  simpa using (((ctx.clearRejectedIfExpired now).skips_iff etag now).mp skips).1

theorem Context.applied_fetch (ctx : Context) (etag : Text) (version : Option ConfigVersion)
    (now : Instant) (unforced : ctx.forceUnconditionalCount = 0) :
    (ctx.onApplyOk etag version now).2 = [.fetchConditional waitMs etag] := by
  simp only [onApplyOk, unforced, if_true, resumeFetching_effects, List.cons.injEq, and_true]
  exact nextFetch_of_applied _ now etag rfl rfl rfl

theorem Context.duplicate_fetch (ctx : Context) (paired : ctx.RejectionPaired) (etag : Text)
    (now : Instant) (unforced : ctx.forceUnconditionalCount = 0)
    (applied : ctx.lastAppliedEtag = some etag) (unrejected : ctx.lastRejectedEtag ≠ some etag) :
    ((ctx.clearRejectedIfExpired now).resetBackoff.nextFetch now).2 =
        .fetchConditional waitMs etag ↔
      ¬∃ deadline, ctx.lastRejectedUntil = some deadline ∧ now < deadline := by
  rcases ctx.clearRejectedIfExpired_rejection now with
    ⟨keptEtag, keptUntil, pending⟩ | ⟨noEtag, _, deadline, storedUntil, passed⟩
  · cases rejected : ctx.lastRejectedEtag with
    | some other =>
      rw [nextFetch_of_rejected _ now other (by simpa using unforced)
        (by simpa using keptEtag.trans rejected)]
      unfold RejectionPaired at paired
      rw [rejected] at paired
      obtain ⟨deadline, storedUntil⟩ := Option.isSome_iff_exists.mp paired.symm
      constructor
      · intro same
        cases same
        exact absurd rejected unrejected
      · intro nothing
        exact absurd ⟨deadline, storedUntil, pending deadline storedUntil⟩ nothing
    | none =>
      rw [nextFetch_of_applied _ now etag (by simpa using unforced)
        (by simpa using keptEtag.trans rejected) (by simpa using applied)]
      unfold RejectionPaired at paired
      rw [rejected] at paired
      simp only [true_iff]
      intro pending
      obtain ⟨deadline, storedUntil, _⟩ := pending
      rw [storedUntil] at paired
      cases paired
  · rw [nextFetch_of_applied _ now etag (by simpa using unforced)
      (by simpa using noEtag) (by simpa using applied)]
    simp only [true_iff]
    intro pending
    obtain ⟨other, otherUntil, before⟩ := pending
    rw [storedUntil] at otherUntil
    cases otherUntil
    exact absurd (Nat.lt_of_lt_of_le before passed) (Nat.lt_irrefl now)

theorem Context.duplicate_fetches (ctx : Context) (update : VerifiedUpdate) (now : Instant)
    (applied : ctx.lastAppliedEtag = some update.etag) :
    (ctx.onVerifyOk update now).2.filter Effect.isFetch =
      [((ctx.clearRejectedIfExpired now).resetBackoff.nextFetch now).2] := by
  have discard : (Effect.discardTemp update.tmpPath).isFetch = false := rfl
  simp [onVerifyOk, applied, discard]

theorem Fsm.not_verifiedUnderRejection {fsm : Fsm} (event : Event)
    (elsewhere : ∀ data, fsm.state ≠ .verifying data) : ¬fsm.VerifiedUnderRejection event := by
  intro verified
  obtain ⟨data, update, now, deadline, verifying, _⟩ := verified
  exact elsewhere data verifying

private theorem unrejected_duplicate {step : Answered} (accepted : step.Accepted Session.step)
    (coherent : step.before.Coherent) (unrejected : step.before.fsm.VerifiesUnrejected)
    {update : VerifiedUpdate} {now : Instant} (eventAt : step.label.event = .verifyOk update now)
    {data : VerifyingData} (stateAt : step.before.fsm.state = .verifying data) :
    step.before.fsm.ctx.lastRejectedEtag ≠ some update.etag := by
  rcases Session.verifyOk_state accepted coherent eventAt with ⟨asked, askedAt, same⟩ | stopped
  · rw [← same]
    exact unrejected asked askedAt
  · rw [stateAt] at stopped
    cases stopped

theorem disposed_fetch_iff (lkgEtag : Option Text) (steps : List Answered)
    (isRun : IsRun Session.step (Session.boot lkgEtag) steps)
    (index : Nat) (step : Answered) (found : steps[index]? = some step) (etag : Text)
    (disposes : step.before.fsm.Disposes step.label.event etag)
    (unforced : step.before.fsm.ctx.forceUnconditionalCount = 0) :
    step.output.filter Effect.isFetch = [.fetchConditional waitMs etag] ↔
      ¬step.before.fsm.VerifiedUnderRejection step.label.event := by
  have accepted := isRun.accepted_at found
  obtain ⟨paired, unrejected⟩ := Session.unrejected_before isRun found
  have coherent := isRun.invariant_before Session.Coherent (Session.coherent_boot lkgEtag)
    (fun _ accepted => Session.coherent_step accepted) found
  have output : step.output = (step.before.fsm.tick step.label.draw step.label.event).2 := by
    rw [(Answered.spec accepted).2.1]
  rw [output]
  cases disposes with
  | skipped etag version size bytes now stateAt eventAt skips =>
    have fetch := step.before.fsm.ctx.skipped_fetch etag now unforced skips
    have settled := Fsm.not_verifiedUnderRejection step.label.event
      (fun data => by rw [stateAt]; exact State.noConfusion)
    refine iff_of_true ?_ settled
    simp only [Fsm.tick, stateAt, eventAt, Context.onResponse, skips, if_true,
      Context.resumeFetching_effects, fetch]
    rfl
  | duplicate data update now stateAt eventAt applied =>
    have fetch := step.before.fsm.ctx.duplicate_fetch paired update.etag now unforced applied
      (unrejected_duplicate accepted coherent unrejected eventAt stateAt)
    simp only [Fsm.tick, stateAt, eventAt, Context.duplicate_fetches _ update now applied,
      List.cons.injEq, and_true, fetch, Fsm.VerifiedUnderRejection]
    refine not_congr ⟨?_, ?_⟩
    · intro pending
      obtain ⟨deadline, storedUntil, before⟩ := pending
      exact ⟨data, update, now, deadline, rfl, rfl, storedUntil, before⟩
    · intro verified
      obtain ⟨_, _, clock, deadline, _, sameEvent, storedUntil, before⟩ := verified
      cases sameEvent
      exact ⟨deadline, storedUntil, before⟩
  | applied etag completes =>
    obtain ⟨update, version, now, stateAt, eventAt⟩ := completes
    have settled := Fsm.not_verifiedUnderRejection step.label.event
      (fun data => by rw [stateAt]; exact State.noConfusion)
    refine iff_of_true ?_ settled
    simp only [Fsm.tick, stateAt, eventAt, Context.applied_fetch _ etag version now unforced]
    rfl

/-- Another artifact is rejected while the applied one is offered again. -/
def duplicateUnderRejection : List Input :=
  [⟨.start 0, 0⟩,
    offer "sha256:a" 1,
    verified "sha256:a" 2,
    ⟨.applyOk (literal "sha256:a") none 3, 0⟩,
    offer "sha256:b" 4,
    ⟨.verifyFail (literal "sha256:b") 5, 0⟩,
    ⟨.timerFired 6, 0⟩,
    offer "sha256:a" 7,
    verified "sha256:a" 8]

theorem duplicate_fetches_rejected_etag :
    MonotoneClock (trace Session.step (Session.boot none) duplicateUnderRejection) ∧
    ∃ step, (trace Session.step (Session.boot none) duplicateUnderRejection)[8]? = some step ∧
      step.before.fsm.Disposes step.label.event (literal "sha256:a") ∧
      step.before.fsm.ctx.forceUnconditionalCount = 0 ∧
      step.output.filter Effect.isFetch = [.fetchConditional waitMs (literal "sha256:b")] ∧
      step.output.filter Effect.isFetch ≠ [.fetchConditional waitMs (literal "sha256:a")] :=
  ⟨by unfold MonotoneClock; decide, _, rfl,
    .duplicate _ ⟨literal "sha256:a", none, none, literal "lkg.tmp.pvs"⟩ 8 rfl rfl rfl, rfl, rfl,
    by decide⟩

theorem disposed_fetch_iff_applied :
    ∃ step, (trace Session.step (Session.boot none) duplicateUnderRejection)[3]? = some step ∧
      (step.output.filter Effect.isFetch = [.fetchConditional waitMs (literal "sha256:a")] ↔
        ¬step.before.fsm.VerifiedUnderRejection step.label.event) :=
  ⟨_, rfl, disposed_fetch_iff none (trace Session.step (Session.boot none) duplicateUnderRejection)
    (trace_isRun _ _ _) 3 _ rfl (literal "sha256:a")
    (.applied _ ⟨⟨literal "sha256:a", none, none, literal "lkg.tmp.pvs"⟩, none, 3, rfl, rfl⟩) rfl⟩

end Pavis.Agent
