/-
What the answers of the long poll mean.

A 204 or a 304 carries the tag of the client, and that was the tag of the snapshot
the handler read last. A 200 carries that snapshot.
-/

import Pavis.Relay.LongPoll

namespace Pavis.Relay

open ByteText LabelledRun

def EventAt (steps : List (Step PollSystem PollAction PollEvent)) (position : Nat)
    (event : PollEvent) : Prop :=
  ∃ step, steps[position]? = some step ∧ step.output = event

/-- The last snapshot before `index` was taken at `position`, and it was this
one. -/
structure LastSnapshot (steps : List (Step PollSystem PollAction PollEvent)) (index position : Nat)
    (snapshot : RelaySnapshot) : Prop where
  earlier : position < index
  taken : ∃ step, steps[position]? = some step ∧ step.output = .tookSnapshot ∧
    step.before.relay.inner = snapshot
  last : ∀ between, position < between → between < index →
    ¬EventAt steps between .tookSnapshot

variable {steps : List (Step PollSystem PollAction PollEvent)} {index position : Nat}
  {step : Step PollSystem PollAction PollEvent} {event : PollEvent}

theorem EventAt.output (happened : EventAt steps index event) (found : steps[index]? = some step) :
    step.output = event := by
  obtain ⟨there, foundThere, outputAt⟩ := happened
  rw [found] at foundThere
  cases foundThere
  exact outputAt

theorem LastSnapshot.later {snapshot : RelaySnapshot}
    (last : LastSnapshot steps index position snapshot) (found : steps[index]? = some step)
    (other : step.output ≠ .tookSnapshot) : LastSnapshot steps (index + 1) position snapshot := by
  refine ⟨Nat.lt_succ_of_lt last.earlier, last.taken, ?_⟩
  intro between after within happened
  rcases Nat.lt_succ_iff_lt_or_eq.mp within with earlier | rfl
  · exact last.last between after earlier happened
  · exact other (happened.output found)

theorem LastSnapshot.now (found : steps[index]? = some step) (takes : step.output = .tookSnapshot) :
    LastSnapshot steps (index + 1) index step.before.relay.inner := by
  refine ⟨Nat.lt_succ_self index, ⟨step, found, takes, rfl⟩, ?_⟩
  intro between after within
  omega

/-- In the loop the tag held is that of the client and of the last snapshot. -/
def Agrees (steps : List (Step PollSystem PollAction PollEvent)) (index position : Nat)
    (request : ConfigRequest) (currentEtag : Text) : Prop :=
  request.clientEtag = some currentEtag ∧
    ∃ snapshot, LastSnapshot steps index position snapshot ∧
      etagFromChecksum snapshot.artifactChecksum = currentEtag

/-- Registered at `position`, and unless it is notified no waiter has been
notified since. -/
structure RegisteredAt (steps : List (Step PollSystem PollAction PollEvent))
    (index position : Nat) (notified : Bool) : Prop where
  earlier : position < index
  registered : EventAt steps position .registered
  quiet : notified = false → ∀ between, position < between → between < index →
    ∀ call, ¬EventAt steps between (.notifiedWaiters call)

def Tracked (steps : List (Step PollSystem PollAction PollEvent)) (index : Nat) : Handler → Prop
  | .idle => True
  | .arrived _ => True
  | .comparing _ snapshot => ∃ position, LastSnapshot steps index position snapshot
  | .looping request _ currentEtag => ∃ position, Agrees steps index position request currentEtag
  | .registering request _ currentEtag _ =>
    ∃ position, Agrees steps index position request currentEtag
  | .waiting request _ currentEtag _ notified =>
    ∃ position registration, Agrees steps index position request currentEtag ∧
      position < registration ∧ RegisteredAt steps index registration notified
  | .rereading request _ currentEtag => request.clientEtag = some currentEtag
  | .comparingAgain request _ currentEtag snapshot =>
    request.clientEtag = some currentEtag ∧
      ∃ position, LastSnapshot steps index position snapshot
  | .answered => True

theorem Agrees.later {request : ConfigRequest} {currentEtag : Text}
    (agrees : Agrees steps index position request currentEtag) (found : steps[index]? = some step)
    (other : step.output ≠ .tookSnapshot) :
    Agrees steps (index + 1) position request currentEtag := by
  obtain ⟨client, snapshot, last, same⟩ := agrees
  exact ⟨client, snapshot, last.later found other, same⟩

theorem RegisteredAt.later {notified stillNotified : Bool}
    (registered : RegisteredAt steps index position notified) (found : steps[index]? = some step)
    (keeps : stillNotified = false →
      notified = false ∧ ∀ call, step.output ≠ .notifiedWaiters call) :
    RegisteredAt steps (index + 1) position stillNotified := by
  refine ⟨Nat.lt_succ_of_lt registered.earlier, registered.registered, ?_⟩
  intro unnotified between after within call happened
  obtain ⟨before, other⟩ := keeps unnotified
  rcases Nat.lt_succ_iff_lt_or_eq.mp within with earlier | rfl
  · exact registered.quiet before between after earlier call happened
  · exact other call (happened.output found)

theorem Tracked.others {handler : Handler} (tracked : Tracked steps index handler)
    (found : steps[index]? = some step) (other : step.output ≠ .tookSnapshot) :
    Tracked steps (index + 1)
      (if step.output.notifies then handler.notifyWaiters else handler) := by
  cases handler with
  | waiting =>
    obtain ⟨position, registration, agrees, ordered, registered⟩ := tracked
    cases notifies : step.output.notifies with
    | true =>
      refine ⟨position, registration, agrees.later found other, ordered,
        registered.later found ?_⟩
      intro impossible
      cases impossible
    | false =>
      refine ⟨position, registration, agrees.later found other, ordered,
        registered.later found ?_⟩
      intro unnotified
      refine ⟨unnotified, ?_⟩
      intro call happened
      rw [happened] at notifies
      cases notifies
  | idle | arrived | answered => simp [Handler.notifyWaiters, Tracked]
  | comparing =>
    obtain ⟨position, last⟩ := tracked
    simp only [Handler.notifyWaiters, ite_self]
    exact ⟨position, last.later found other⟩
  | looping | registering =>
    obtain ⟨position, agrees⟩ := tracked
    simp only [Handler.notifyWaiters, ite_self]
    exact ⟨position, agrees.later found other⟩
  | rereading =>
    simp only [Handler.notifyWaiters, ite_self]
    exact tracked
  | comparingAgain =>
    obtain ⟨client, position, last⟩ := tracked
    simp only [Handler.notifyWaiters, ite_self]
    exact ⟨client, position, last.later found other⟩

def PollEvent.call : PollEvent → Option Nat
  | .installed call _ => some call
  | .notifiedWaiters call => some call
  | .completed call => some call
  | _ => none

variable {call : Nat}

theorem PublisherStep.not_snapshot {relay next : RelayRuntimeState}
    {before after : Option Publishing} (steps : PublisherStep call relay next before after event) :
    event ≠ .tookSnapshot := by
  cases steps <;> simp

theorem Tracked.handler (found : steps[index]? = some step)
    (tracked : Tracked steps index step.before.handler)
    (moves : HandlerStep step.before step.after.handler step.output) :
    Tracked steps (index + 1) step.after.handler := by
  obtain ⟨before, label, after, event⟩ := step
  change HandlerStep before after.handler event at moves
  change Tracked steps (index + 1) after.handler
  change Tracked steps index before.handler at tracked
  generalize after.handler = next at moves
  cases moves with
  | refuses | arrives | sends | notModified | outOfTime | timesOut | sendsNew => trivial
  | reads => exact ⟨index, LastSnapshot.now found rfl⟩
  | enters deadline comparing agrees =>
    rw [comparing] at tracked
    obtain ⟨position, last⟩ := tracked
    exact ⟨position, agrees, _, last.later found (by simp), rfl⟩
  | proceeds remaining looping =>
    rw [looping] at tracked
    obtain ⟨position, agrees⟩ := tracked
    exact ⟨position, agrees.later found (by simp)⟩
  | registers expires registering =>
    rw [registering] at tracked
    obtain ⟨position, agrees⟩ := tracked
    have ordered : position < index := agrees.2.choose_spec.1.earlier
    refine ⟨position, index, agrees.later found (by simp), ordered,
      Nat.lt_succ_self index, ⟨_, found, rfl⟩, ?_⟩
    intro _ between after within
    omega
  | wakes waiting =>
    rw [waiting] at tracked
    obtain ⟨_, _, agrees, _⟩ := tracked
    exact agrees.1
  | rereads rereading =>
    rw [rereading] at tracked
    exact ⟨tracked, index, LastSnapshot.now found rfl⟩
  | loops comparing same =>
    rw [comparing] at tracked
    obtain ⟨client, position, last⟩ := tracked
    exact ⟨position, client, _, last.later found (by simp), same⟩

theorem tracked_before {relay : RelayRuntimeState} {longPollEnabled : Bool} {clock : Nat}
    (isRun : IsRun PollSystem.step (PollSystem.start relay longPollEnabled clock) steps)
    (found : steps[index]? = some step) : Tracked steps index step.before.handler := by
  induction index generalizing step with
  | zero =>
    rw [isRun.before_zero found]
    trivial
  | succ index ih =>
    obtain ⟨earlier, foundEarlier⟩ := found_of_lt found (Nat.le_succ index)
    rw [isRun.before_succ foundEarlier found]
    have tracked := ih foundEarlier
    cases PollSystem.polled_of_accepted (isRun.accepted_at foundEarlier) with
    | handler moves => exact tracked.handler foundEarlier moves
    | publisher call publishing moves publishers handlerAt =>
      rw [handlerAt]
      exact tracked.others foundEarlier moves.not_snapshot
    | other handlerAt publishers quiet =>
      have kept := tracked.others foundEarlier
        (by rcases quiet with silent | ⟨reason, refused⟩ <;> simp [*])
      rw [handlerAt]
      rcases quiet with silent | ⟨reason, refused⟩
      · simpa [silent, PollEvent.notifies] using kept
      · simpa [refused, PollEvent.notifies] using kept

/-- The call has changed the checksum and is still to notify. -/
def Unnotified (call : Nat) (system : PollSystem) : Prop :=
  ∃ publishing, system.publishers call = some publishing ∧ publishing.etagChanged = true ∧
    publishing.stage ≠ .notified

variable {before after : PollSystem}

theorem Unnotified.kept (polled : Polled before after event) (unnotified : Unnotified call before)
    (other : event ≠ .notifiedWaiters call) : Unnotified call after := by
  obtain ⟨publishing, found, changed, stage⟩ := unnotified
  cases polled with
  | handler moves same => exact ⟨publishing, by rw [same]; exact found, changed, stage⟩
  | other handlerAt publishers =>
    exact ⟨publishing, by rw [publishers, found], changed, stage⟩
  | publisher moving next moves publishers =>
    by_cases same : moving = call
    · subst same
      have foundAfter : after.publishers moving = next := by
        rw [publishers, Function.update_self]
      generalize before.publishers moving = current at found moves
      cases moves with
      | installs => cases found
      | records =>
        cases found
        exact ⟨_, foundAfter, changed, by simp⟩
      | notifies => exact absurd rfl other
      | skips moved recorded unchanged =>
        cases found
        rw [changed] at unchanged
        cases unchanged
      | completes moved notified =>
        cases found
        exact absurd notified stage
    · exact ⟨publishing, by rw [publishers, Function.update_of_ne (Ne.symm same), found],
        changed, stage⟩

theorem Polled.publisherStep (polled : Polled before after event) (names : event.call = some call) :
    PublisherStep call before.relay after.relay (before.publishers call) (after.publishers call)
      event := by
  cases polled with
  | handler moves =>
    generalize after.handler = next at moves
    cases moves <;> cases names
  | other handlerAt publishers quiet =>
    rcases quiet with silent | ⟨reason, refused⟩
    · rw [silent] at names
      cases names
    · rw [refused] at names
      cases names
  | publisher moving next moves publishers =>
    have same : moving = call := by
      generalize before.publishers moving = current at moves
      cases moves <;> cases names <;> rfl
    subst same
    rw [publishers, Function.update_self]
    exact moves

theorem Polled.installed_unnotified (polled : Polled before after (.installed call true)) :
    Unnotified call after := by
  have moves := polled.publisherStep rfl
  generalize eventAt : PollEvent.installed call true = event at moves
  generalize before.publishers call = current at moves
  generalize foundAfter : after.publishers call = next at moves
  cases moves with
  | installs publishing stage =>
    rw [PollEvent.installed.injEq] at eventAt
    exact ⟨publishing, foundAfter, eventAt.2.symm, by simp [stage]⟩
  | _ => cases eventAt

theorem Polled.completed_not_unnotified (polled : Polled before after (.completed call)) :
    ¬Unnotified call before := by
  intro unnotified
  obtain ⟨publishing, found, changed, stage⟩ := unnotified
  have moves := polled.publisherStep rfl
  rw [found] at moves
  generalize after.publishers call = next at moves
  cases moves with
  | completes _ notified => exact stage notified

theorem notified_before_completed {state : PollSystem} (isRun : IsRun PollSystem.step state steps)
    {first last : Nat} (ordered : first < last)
    (installed : EventAt steps first (.installed call true))
    (completed : EventAt steps last (.completed call)) :
    ∃ between, first < between ∧ between < last ∧
      EventAt steps between (.notifiedWaiters call) := by
  obtain ⟨opening, foundOpening, installs⟩ := installed
  obtain ⟨closing, foundClosing, completes⟩ := completed
  by_contra unheard
  have opened := PollSystem.polled_of_accepted (isRun.accepted_at foundOpening)
  have closed := PollSystem.polled_of_accepted (isRun.accepted_at foundClosing)
  rw [installs] at opened
  rw [completes] at closed
  apply closed.completed_not_unnotified
  refine isRun.persists (Unnotified call) foundOpening foundClosing ordered
    opened.installed_unnotified ?_
  intro index step after within found unnotified
  apply unnotified.kept (PollSystem.polled_of_accepted (isRun.accepted_at found))
  intro notifies
  exact unheard ⟨index, after, within, step, found, notifies⟩

/-! ### The answers -/

/-- What a timeout at `index` of a handler registered at `registration`
rules out. -/
structure MissedNothingSince (steps : List (Step PollSystem PollAction PollEvent))
    (registration index : Nat) : Prop where
  earlier : registration < index
  registered : EventAt steps registration .registered
  unnotified : ∀ between, registration < between → between < index →
    ∀ call, ¬EventAt steps between (.notifiedWaiters call)
  uncompleted : ∀ first last call, registration < first → first < last → last < index →
    EventAt steps first (.installed call true) → ¬EventAt steps last (.completed call)

theorem RegisteredAt.missedNothing {state : PollSystem} (isRun : IsRun PollSystem.step state steps)
    (registered : RegisteredAt steps index position false) :
    MissedNothingSince steps position index := by
  refine ⟨registered.earlier, registered.registered, registered.quiet rfl, ?_⟩
  intro first last call afterRegistration ordered beforeAnswer installed completed
  obtain ⟨between, afterInstall, beforeCompletion, notifies⟩ :=
    notified_before_completed isRun ordered installed completed
  exact registered.quiet rfl between (by omega) (by omega) call notifies

theorem HandlerStep.unmodified_cases {system : PollSystem} {next : Handler} {etag : Text}
    (moves : HandlerStep system next event)
    (answers : event = .responded (build204 etag) ∨ event = .responded (build304 etag)) :
    (∃ request snapshot, system.handler = .comparing request snapshot ∧
        request.clientEtag = some etag ∧ etagFromChecksum snapshot.artifactChecksum = etag) ∨
      (∃ request deadline, system.handler = .looping request deadline etag) ∨
      ∃ request deadline expires,
        system.handler = .waiting request deadline etag expires false := by
  have unquoted {other : Text} (same : event = .responded (build204 other) ∨
      event = .responded (build304 other)) : other = etag := by
    rcases same with same | same <;> rcases answers with answer | answer <;>
      simp only [same, PollEvent.responded.injEq, build204, build304, Response.noContent.injEq,
        Response.notModified.injEq, reduceCtorEq] at answer <;>
      exact quoteEtag_injective answer
  cases moves with
  | notModified comparing agrees =>
    have same := unquoted (.inr rfl)
    exact .inl ⟨_, _, comparing, by rw [← same]; exact agrees, same⟩
  | outOfTime looping =>
    have same := unquoted (.inl rfl)
    subst same
    exact .inr (.inl ⟨_, _, looping⟩)
  | timesOut waiting =>
    have same := unquoted (.inl rfl)
    subst same
    exact .inr (.inr ⟨_, _, _, waiting⟩)
  | refuses idle other =>
    rcases answers with answer | answer
    · cases answer
      exact absurd rfl (other etag).1
    · cases answer
      exact absurd rfl (other etag).2
  | sends | sendsNew =>
    rcases answers with answer | answer <;>
      simp [build200, build204, build304] at answer
  | _ => rcases answers with answer | answer <;> cases answer

def Handler.request : Handler → Option ConfigRequest
  | .idle => none
  | .arrived request => some request
  | .comparing request _ => some request
  | .looping request _ _ => some request
  | .registering request _ _ _ => some request
  | .waiting request _ _ _ _ => some request
  | .rereading request _ _ => some request
  | .comparingAgain request _ _ _ => some request
  | .answered => none

def Handler.waits : Handler → Bool
  | .waiting _ _ _ _ _ => true
  | _ => false

theorem Polled.handler_of_responded {response : Response}
    (polled : Polled before after (.responded response)) :
    HandlerStep before after.handler (.responded response) := by
  cases polled with
  | handler moves => exact moves
  | publisher call publishing moves publishers =>
    generalize before.publishers call = current at moves
    cases moves
  | other handlerAt publishers quiet =>
    rcases quiet with impossible | ⟨_, impossible⟩ <;> cases impossible

theorem long_poll_unmodified (relay : RelayRuntimeState) (longPollEnabled : Bool) (clock : Nat)
    (steps : List (Step PollSystem PollAction PollEvent))
    (isRun : IsRun PollSystem.step (PollSystem.start relay longPollEnabled clock) steps)
    (index : Nat) (step : Step PollSystem PollAction PollEvent)
    (found : steps[index]? = some step) (etag : Text)
    (answers : step.output = .responded (build204 etag) ∨
      step.output = .responded (build304 etag)) :
    (∃ request, step.before.handler.request = some request ∧ request.clientEtag = some etag) ∧
      ∃ position snapshot, LastSnapshot steps index position snapshot ∧
        etagFromChecksum snapshot.artifactChecksum = etag ∧
        (step.before.handler.waits = true →
          ∃ registration, position < registration ∧
            MissedNothingSince steps registration index) := by
  have tracked := tracked_before isRun found
  have polled := PollSystem.polled_of_accepted (isRun.accepted_at found)
  have moves : HandlerStep step.before step.after.handler step.output := by
    rcases answers with answer | answer <;> rw [answer] at polled ⊢ <;>
      exact polled.handler_of_responded
  rcases moves.unmodified_cases answers with ⟨request, snapshot, comparing, client, same⟩ |
    ⟨request, deadline, looping⟩ | ⟨request, deadline, expires, waiting⟩
  · rw [comparing] at tracked ⊢
    obtain ⟨position, last⟩ := tracked
    exact ⟨⟨request, rfl, client⟩, position, snapshot, last, same, fun waits => by cases waits⟩
  · rw [looping] at tracked ⊢
    obtain ⟨position, client, snapshot, last, same⟩ := tracked
    exact ⟨⟨request, rfl, client⟩, position, snapshot, last, same, fun waits => by cases waits⟩
  · rw [waiting] at tracked ⊢
    obtain ⟨position, registration, ⟨client, snapshot, last, same⟩, ordered, registered⟩ := tracked
    exact ⟨⟨request, rfl, client⟩, position, snapshot, last, same, fun _ =>
      ⟨registration, ordered, registered.missedNothing isRun⟩⟩

def repeatedChecksum (digit : Char) : Text :=
  literal "sha256:" ++ List.replicate 64 (ascii digit)

def readyRelay : RelayRuntimeState :=
  { inner :=
      { version := 1
        artifact := relayArtifact [7] RelayMeta.empty 0
        updatedAt := 0
        artifactChecksum := repeatedChecksum 'a' }
    history := fun _ => none
    ready := true
    maxPvsBytes := 0
    files := ∅ }

def publishOther : List PollAction :=
  [.publish 0 2 [8] RelayMeta.empty (repeatedChecksum 'b') 0, .resume 0, .resume 0, .resume 0]

def staleNotModified : List PollAction :=
  [.request (some (quoteEtag (repeatedChecksum 'a'))) none, .poll] ++ publishOther ++ [.poll]

def lostNotification : List PollAction :=
  [.request (some (quoteEtag (repeatedChecksum 'a'))) (some 10), .poll, .poll, .poll] ++
    publishOther ++ [.poll, .tick 10, .poll]

theorem long_poll_answers_are_stale :
    (∃ step, (trace PollSystem.step (PollSystem.start readyRelay true 0) staleNotModified)[6]? =
        some step ∧
      step.output = .responded (build304 (repeatedChecksum 'a')) ∧
      etagFromChecksum step.before.relay.inner.artifactChecksum = repeatedChecksum 'b') ∧
    ∃ step, (trace PollSystem.step (PollSystem.start readyRelay true 0) lostNotification)[10]? =
        some step ∧
      step.output = .responded (build204 (repeatedChecksum 'a')) ∧
      etagFromChecksum step.before.relay.inner.artifactChecksum = repeatedChecksum 'b' ∧
      EventAt (trace PollSystem.step (PollSystem.start readyRelay true 0) lostNotification) 1
        .tookSnapshot ∧
      EventAt (trace PollSystem.step (PollSystem.start readyRelay true 0) lostNotification) 4
        (.installed 0 true) ∧
      EventAt (trace PollSystem.step (PollSystem.start readyRelay true 0) lostNotification) 7
        (.completed 0) ∧
      EventAt (trace PollSystem.step (PollSystem.start readyRelay true 0) lostNotification) 8
        .registered := by
  refine ⟨⟨_, rfl, rfl, by decide⟩, _, rfl, rfl, by decide, ⟨_, rfl, rfl⟩, ⟨_, rfl, rfl⟩,
    ⟨_, rfl, rfl⟩, _, rfl, rfl⟩

def quietWait : List PollAction :=
  [.request (some (quoteEtag (repeatedChecksum 'a'))) (some 10), .poll, .poll, .poll, .poll,
    .tick 10, .poll]

theorem long_poll_unmodified_quietWait :
    ∃ step, (trace PollSystem.step (PollSystem.start readyRelay true 0) quietWait)[6]? =
        some step ∧
      step.output = .responded (build204 (repeatedChecksum 'a')) ∧
      ∃ registration, MissedNothingSince
        (trace PollSystem.step (PollSystem.start readyRelay true 0) quietWait) registration 6 := by
  refine ⟨_, rfl, rfl, ?_⟩
  obtain ⟨_, _, _, _, _, missed⟩ := long_poll_unmodified readyRelay true 0
    (trace PollSystem.step (PollSystem.start readyRelay true 0) quietWait) (trace_isRun _ _ _) 6 _
    rfl (repeatedChecksum 'a') (.inl rfl)
  obtain ⟨registration, _, nothing⟩ := missed rfl
  exact ⟨registration, nothing⟩

variable {action : PollAction} {etag : Text} {size version : Nat} {body : Bytes}

theorem PollSystem.sent_cases (accepted : PollSystem.step before action =
      some (after, .responded (.ok etag size version body))) :
    ∃ request snapshot,
      .ok etag size version body =
        build200 snapshot (etagFromChecksum snapshot.artifactChecksum) ∧
      ((before.handler = .comparing request snapshot ∧
          request.clientEtag ≠ some (etagFromChecksum snapshot.artifactChecksum)) ∨
        ∃ deadline currentEtag,
          before.handler = .comparingAgain request deadline currentEtag snapshot ∧
          etagFromChecksum snapshot.artifactChecksum ≠ currentEtag) := by
  cases action with
  | request =>
    simp only [PollSystem.step, PollSystem.accept] at accepted
    repeat' split at accepted
    all_goals cases accepted
  | poll =>
    change before.poll = _ at accepted
    unfold PollSystem.poll at accepted
    cases handlerAt : before.handler with
    | comparing request snapshot =>
      rw [handlerAt] at accepted
      dsimp only [PollSystem.compare] at accepted
      refine ⟨request, snapshot, ?_⟩
      split_ifs at accepted with differs unnamed waits agrees <;> cases accepted
      · exact ⟨rfl, .inl ⟨rfl, fun named => by simp [named] at differs⟩⟩
      · exact ⟨rfl, .inl ⟨rfl, fun named => by simp [named] at unnamed⟩⟩
      · exact ⟨rfl, .inl ⟨rfl, agrees⟩⟩
    | comparingAgain request deadline currentEtag snapshot =>
      rw [handlerAt] at accepted
      dsimp only at accepted
      split_ifs at accepted with differs <;> cases accepted
      exact ⟨request, snapshot, rfl, .inr ⟨deadline, currentEtag, rfl, differs⟩⟩
    | _ =>
      rw [handlerAt] at accepted
      dsimp only at accepted
      repeat' split at accepted
      all_goals cases accepted
  | tick => cases accepted
  | publish =>
    simp only [PollSystem.step, PollSystem.publish] at accepted
    repeat' split at accepted
    all_goals cases accepted
  | resume =>
    obtain ⟨publishing, _, resumed⟩ := Option.map_eq_some_iff.mp accepted
    unfold PollSystem.resume at resumed
    repeat' split at resumed
    all_goals cases resumed

/-- An artifact is sent as the last snapshot had it, with its own tag, size and version, and
only to a client that has not named that tag. -/
theorem long_poll_sends (relay : RelayRuntimeState) (longPollEnabled : Bool) (clock : Nat)
    (isRun : IsRun PollSystem.step (PollSystem.start relay longPollEnabled clock) steps)
    (found : steps[index]? = some step)
    (sends : step.output = .responded (.ok etag size version body)) :
    ∃ request position snapshot, step.before.handler.request = some request ∧
      LastSnapshot steps index position snapshot ∧
      .ok etag size version body =
        build200 snapshot (etagFromChecksum snapshot.artifactChecksum) ∧
      request.clientEtag ≠ some (etagFromChecksum snapshot.artifactChecksum) := by
  have tracked := tracked_before isRun found
  have accepted := isRun.accepted_at found
  obtain ⟨before, action, after, output⟩ := step
  cases sends
  obtain ⟨request, snapshot, whole, ⟨comparing, differs⟩ | ⟨_, _, comparing, differs⟩⟩ :=
    PollSystem.sent_cases accepted
  · rw [comparing] at tracked ⊢
    obtain ⟨position, last⟩ := tracked
    exact ⟨request, position, snapshot, rfl, last, whole, differs⟩
  · rw [comparing] at tracked ⊢
    obtain ⟨client, position, last⟩ := tracked
    refine ⟨request, position, snapshot, rfl, last, whole, fun named => ?_⟩
    rw [client] at named
    exact differs (Option.some.inj named).symm

def wokenWait : List PollAction := quietWait.take 5 ++ publishOther ++ [.poll, .poll, .poll]

theorem long_poll_sends_wokenWait :
    ∃ position snapshot, LastSnapshot
        (trace PollSystem.step (PollSystem.start readyRelay true 0) wokenWait) 11 position
        snapshot ∧ snapshot.artifact.bytes = [8] := by
  obtain ⟨_, position, snapshot, _, last, whole, _⟩ := long_poll_sends readyRelay true 0
    (trace_isRun PollSystem.step _ wokenWait) (show _[11]? = some _ from rfl) rfl
  exact ⟨position, snapshot, last, (Response.ok.inj whole).2.2.2.symm⟩

end Pavis.Relay
