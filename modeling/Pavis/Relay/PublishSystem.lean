/-
Concurrent publishers.

Any number of publish calls queue on the publish lock. The one that holds it
writes the files, then updates the snapshot, the history map and the waiters in
separate steps, and readers may take a snapshot at any point.
-/

import Pavis.Library.LabelledRun
import Pavis.Relay.RejectedPublish

namespace Pavis.Relay

open ByteText FaultyDisk LabelledRun Pavis.Pvs

/-- How far the in-memory update of a holder has come. -/
inductive Stage where
  | persisted
  | installed (artifact : RelayArtifact)
  | recorded
  deriving DecidableEq

structure Holder where
  entry : RelayRuntimeState
  plan : PublishPlan
  bytes : Bytes
  now : Nat
  relayMeta : RelayMeta
  metadata : ArtifactMetadata
  stage : Stage

structure System where
  relay : RelayRuntimeState
  waiting : List Bytes
  holder : Option Holder

def System.start (relay : RelayRuntimeState) : System :=
  { relay := relay, waiting := [], holder := none }

inductive Action where
  | call (bytes : Bytes)
  | acquire (position : Nat) (plan : PublishPlan) (now : Nat)
  | install (now : Nat)
  | record
  | finish
  | snapshot

inductive Outcome where
  | silent
  | refused (reason : RelayError)
  | rejected (entry : RelayRuntimeState) (plan : PublishPlan) (bytes : Bytes) (now : Nat)
      (reason : RelayError)
  | published (entry : RelayRuntimeState) (bytes : Bytes) (metadata : ArtifactMetadata)
  | observed (snapshot : RelaySnapshot)

section
variable (serde : Serde) (primitives : Primitives)

/-- The size limit is checked before the call queues on the lock. -/
def System.call (system : System) (bytes : Bytes) : System × Outcome :=
  match system.relay.enforceLimits bytes.length with
  | .error reason => (system, .refused reason)
  | .ok () => ({ system with waiting := system.waiting ++ [bytes] }, .silent)

def System.acquire (system : System) (position : Nat) (bytes : Bytes) (plan : PublishPlan)
    (now : Nat) : Option (System × Outcome) :=
  let waiting := system.waiting.eraseIdx position
  match system.relay.persist serde primitives plan bytes now with
  | .crashed _ => none
  | .error relay reason =>
    some ({ relay := relay, waiting := waiting, holder := none },
      .rejected system.relay plan bytes now reason)
  | .ok relay (relayMeta, metadata) =>
    some
      ({ relay := relay
         waiting := waiting
         holder := some
           { entry := system.relay
             plan := plan
             bytes := bytes
             now := now
             relayMeta := relayMeta
             metadata := metadata
             stage := .persisted } },
        .silent)

/-- The snapshot is replaced under its write lock, unless the version would not
grow. -/
def System.install (system : System) (holder : Holder) (now : Nat) : System × Outcome :=
  let rejected (reason : RelayError) : System × Outcome :=
    ({ system with holder := none },
      .rejected holder.entry holder.plan holder.bytes holder.now reason)
  match system.relay.enforceLimits holder.bytes.length with
  | .error reason => rejected reason
  | .ok () =>
    match executePlan system.relay.inner.version holder.metadata.version with
    | .error reason => rejected reason
    | .ok () =>
      let artifact := relayArtifact holder.bytes holder.relayMeta now
      ({ system with
         relay := system.relay.install holder.metadata.version artifact
           holder.metadata.checksum now
         holder := some { holder with stage := .installed artifact } },
        .silent)

def System.step : Machine System Action Outcome := fun system action =>
  match action, system.holder with
  | .call bytes, _ => some (system.call bytes)
  | .acquire position plan now, none =>
    if plan.returns then
      (system.waiting[position]?).bind fun bytes =>
        system.acquire serde primitives position bytes plan now
    else none
  | .install now, some holder =>
    match holder.stage with
    | .persisted => some (system.install holder now)
    | _ => none
  | .record, some holder =>
    match holder.stage with
    | .installed artifact =>
      some ({ system with
        relay := system.relay.record holder.metadata.version artifact
        holder := some { holder with stage := .recorded } }, .silent)
    | _ => none
  | .finish, some holder =>
    match holder.stage with
    | .recorded =>
      some ({ system with relay := system.relay.markReady, holder := none },
        .published holder.entry holder.bytes holder.metadata)
    | _ => none
  | .snapshot, _ => some (system, .observed system.relay.inner)
  | _, _ => none

inductive Moved : System → System → Outcome → Prop where
  | refused (system : System) (reason : RelayError) : Moved system system (.refused reason)
  | queued (relay : RelayRuntimeState) (waiting : List Bytes) (holder : Option Holder)
      (bytes : Bytes) :
      Moved ⟨relay, waiting, holder⟩ ⟨relay, waiting ++ [bytes], holder⟩ .silent
  | observed (system : System) : Moved system system (.observed system.relay.inner)
  | rejected (relay after : RelayRuntimeState) (waiting rest : List Bytes) (plan : PublishPlan)
      (bytes : Bytes) (now : Nat) (reason : RelayError)
      (persisted : Persisted serde primitives plan bytes now relay (.error after reason)) :
      Moved ⟨relay, waiting, none⟩ ⟨after, rest, none⟩ (.rejected relay plan bytes now reason)
  | persisted (relay after : RelayRuntimeState) (waiting rest : List Bytes) (plan : PublishPlan)
      (bytes : Bytes) (now : Nat) (relayMeta : RelayMeta) (metadata : ArtifactMetadata)
      (persisted : Persisted serde primitives plan bytes now relay
        (.ok after (relayMeta, metadata))) :
      Moved ⟨relay, waiting, none⟩
        ⟨after, rest, some ⟨relay, plan, bytes, now, relayMeta, metadata, .persisted⟩⟩ .silent
  | overtaken (relay : RelayRuntimeState) (waiting : List Bytes) (holder : Holder)
      (reason : RelayError) (stageAt : holder.stage = .persisted)
      (cause : relay.enforceLimits holder.bytes.length ≠ .ok () ∨
        holder.metadata.version ≤ relay.inner.version) :
      Moved ⟨relay, waiting, some holder⟩ ⟨relay, waiting, none⟩
        (.rejected holder.entry holder.plan holder.bytes holder.now reason)
  | installed (relay : RelayRuntimeState) (waiting : List Bytes) (holder : Holder)
      (artifact : RelayArtifact) (now : Nat) (stageAt : holder.stage = .persisted)
      (grows : relay.inner.version < holder.metadata.version) :
      Moved ⟨relay, waiting, some holder⟩
        ⟨relay.install holder.metadata.version artifact holder.metadata.checksum now, waiting,
          some { holder with stage := .installed artifact }⟩ .silent
  | recorded (relay : RelayRuntimeState) (waiting : List Bytes) (holder : Holder)
      (artifact : RelayArtifact) (stageAt : holder.stage = .installed artifact) :
      Moved ⟨relay, waiting, some holder⟩
        ⟨relay.record holder.metadata.version artifact, waiting,
          some { holder with stage := .recorded }⟩ .silent
  | finished (relay : RelayRuntimeState) (waiting : List Bytes) (holder : Holder)
      (stageAt : holder.stage = .recorded) :
      Moved ⟨relay, waiting, some holder⟩ ⟨relay.markReady, waiting, none⟩
        (.published holder.entry holder.bytes holder.metadata)

variable {serde primitives}

variable {after : System} {bytes : Bytes} {plan : PublishPlan} {now : Nat} {outcome : Outcome}
  {step : Step System Action Outcome} {relay : RelayRuntimeState} {metadata : ArtifactMetadata}

theorem System.acquire_moved {system : System} {position : Nat} (free : system.holder = none)
    (returns : plan.returns = true)
    (accepted : system.acquire serde primitives position bytes plan now = some (after, outcome)) :
    Moved serde primitives system after outcome := by
  obtain ⟨relay, waiting, holder⟩ := system
  change holder = none at free
  subst free
  have persisted := persist_persisted serde primitives returns bytes now relay
  unfold acquire at accepted
  simp only at accepted
  cases result : relay.persist serde primitives plan bytes now with
  | crashed =>
    rw [result] at accepted
    cases accepted
  | error left reason =>
    rw [result] at accepted persisted
    cases accepted
    exact .rejected relay left waiting _ plan bytes now reason persisted
  | ok left prepared =>
    obtain ⟨relayMeta, metadata⟩ := prepared
    rw [result] at accepted persisted
    cases accepted
    exact .persisted relay left waiting _ plan bytes now relayMeta metadata persisted

theorem System.install_moved (serde : Serde) (primitives : Primitives)
    (relay : RelayRuntimeState) (waiting : List Bytes) (holder : Holder) (now : Nat)
    (stageAt : holder.stage = .persisted) :
    Moved serde primitives ⟨relay, waiting, some holder⟩
      (install ⟨relay, waiting, some holder⟩ holder now).1
      (install ⟨relay, waiting, some holder⟩ holder now).2 := by
  unfold install
  cases limited : relay.enforceLimits holder.bytes.length with
  | error reason =>
    simp only
    exact .overtaken relay waiting holder reason stageAt (Or.inl (by rw [limited]; simp))
  | ok =>
    simp only
    by_cases grows : holder.metadata.version ≤ relay.inner.version
    · simp only [executePlan, grows, if_true]
      exact .overtaken relay waiting holder _ stageAt (Or.inr grows)
    · simp only [executePlan, grows, if_false]
      exact .installed relay waiting holder _ now stageAt (Nat.lt_of_not_le grows)

theorem System.moved_of_accepted (accepted : step.Accepted (System.step serde primitives)) :
    Moved serde primitives step.before step.after step.output := by
  obtain ⟨⟨relay, waiting, holder⟩, action, after, outcome⟩ := step
  change System.step serde primitives ⟨relay, waiting, holder⟩ action = some (after, outcome)
    at accepted
  cases action with
  | call bytes =>
    dsimp only [System.step, System.call] at accepted
    cases limited : relay.enforceLimits bytes.length with
    | error reason =>
      rw [limited] at accepted
      cases accepted
      exact .refused _ reason
    | ok =>
      rw [limited] at accepted
      cases accepted
      exact .queued relay waiting holder bytes
  | snapshot =>
    cases accepted
    exact .observed _
  | acquire =>
    cases holder with
    | some => cases accepted
    | none =>
      dsimp only [System.step] at accepted
      split at accepted
      · rename_i returns
        obtain ⟨bytes, _, acquires⟩ := Option.bind_eq_some_iff.mp accepted
        exact System.acquire_moved rfl returns acquires
      · cases accepted
  | install now =>
    cases holder with
    | none => cases accepted
    | some holder =>
      dsimp only [System.step] at accepted
      cases stageAt : holder.stage with
      | persisted =>
        rw [stageAt] at accepted
        have moved := System.install_moved serde primitives relay waiting holder now stageAt
        simp only [Option.some.injEq] at accepted
        rw [accepted] at moved
        exact moved
      | installed | recorded =>
        rw [stageAt] at accepted
        cases accepted
  | record =>
    cases holder with
    | none => cases accepted
    | some holder =>
      dsimp only [System.step] at accepted
      cases stageAt : holder.stage with
      | installed artifact =>
        rw [stageAt] at accepted
        cases accepted
        exact .recorded relay waiting holder artifact stageAt
      | persisted | recorded =>
        rw [stageAt] at accepted
        cases accepted
  | finish =>
    cases holder with
    | none => cases accepted
    | some holder =>
      dsimp only [System.step] at accepted
      cases stageAt : holder.stage with
      | recorded =>
        rw [stageAt] at accepted
        cases accepted
        exact .finished relay waiting holder stageAt
      | persisted | installed =>
        rw [stageAt] at accepted
        cases accepted

/-- How a call that runs alone comes back with a result. -/
inductive Reports (relay : RelayRuntimeState) (plan : PublishPlan) (bytes : Bytes) (now : Nat) :
    Result RelayRuntimeState RelayError ArtifactMetadata → System × Outcome → Prop where
  | published (after : RelayRuntimeState) (metadata : ArtifactMetadata) :
      Reports relay plan bytes now (.ok after metadata)
        (System.start after, .published relay bytes metadata)
  | refused (reason : RelayError) :
      Reports relay plan bytes now (.error relay reason) (System.start relay, .refused reason)
  | rejected (after : RelayRuntimeState) (reason : RelayError) :
      Reports relay plan bytes now (.error after reason)
        (System.start after, .rejected relay plan bytes now reason)

/-- With nothing else going on, the steps of a call compute `publish_bytes`. A call that
fails stops at the step that fails. -/
theorem System.publish_alone (returns : plan.returns = true) (installedAt : Nat) :
    ∃ last, (trace (System.step serde primitives) (start relay)
        [.call bytes, .acquire 0 plan now, .install installedAt, .record, .finish]).getLast?.map
          (fun step => (step.after, step.output)) = some last ∧
      Reports relay plan bytes now
        (relay.publishBytes serde primitives plan bytes now installedAt) last := by
  have persisted := persist_persisted serde primitives returns bytes now relay
  unfold RelayRuntimeState.publishBytes
  cases within : relay.enforceLimits bytes.length with
  | error reason =>
    refine ⟨(start relay, .refused reason), ?_, ?_⟩
    · simp [trace, start, System.step.eq_def, call, within, returns]
    · rw [RelayRuntimeState.persist, within]
      exact .refused reason
  | ok =>
    cases result : relay.persist serde primitives plan bytes now with
    | crashed =>
      rw [result] at persisted
      cases persisted
    | error after reason =>
      refine ⟨_, ?_, .rejected after reason⟩
      simp [trace, start, System.step.eq_def, call, acquire, within, returns, result]
    | ok after prepared =>
      -- the limit is checked again, and the version must grow
      dsimp only [Result.andThen]
      unfold RelayRuntimeState.publish
      cases again : after.enforceLimits bytes.length with
      | error reason =>
        refine ⟨_, ?_, .rejected after reason⟩
        simp [trace, start, System.step.eq_def, call, acquire, install, within,
          returns, result, again]
      | ok =>
        cases grows : executePlan after.inner.version prepared.2.version with
        | error reason =>
          refine ⟨_, ?_, .rejected after reason⟩
          simp [trace, start, System.step.eq_def, call, acquire, install, within,
            returns, result, again, grows]
        | ok =>
          refine ⟨_, ?_, .published _ prepared.2⟩
          simp [trace, start, System.step.eq_def, call, acquire, install, within,
            returns, result, again, grows]

theorem Persisted.kept {result : Result RelayRuntimeState RelayError (RelayMeta × ArtifactMetadata)}
    (persisted : Persisted serde primitives plan bytes now relay result) :
    result.state.inner = relay.inner := by
  cases persisted <;> rfl

variable (serde primitives)

/-- The files are those the holder wrote, and the snapshot is the one it found
until it has replaced it. -/
structure Holder.Valid (holder : Holder) (relay : RelayRuntimeState) : Prop where
  accepts : Accepts primitives holder.entry holder.bytes
  historyClean : holder.plan.history.clean = true
  lkgClean : holder.plan.lkg.clean = true
  metadataAt : holder.metadata = holder.entry.metadataFor primitives holder.bytes holder.now
  filesAt : relay.files =
    promotedFiles serde holder.plan holder.bytes holder.metadata holder.entry.files
  limitAt : relay.maxPvsBytes = holder.entry.maxPvsBytes
  found : holder.stage = .persisted →
    relay.inner = holder.entry.inner ∧ relay.history = holder.entry.history
  replaced : holder.stage ≠ .persisted →
    relay.inner.version = holder.metadata.version ∧
      holder.entry.inner.version < holder.metadata.version

def System.Valid (system : System) : Prop :=
  ∀ holder, system.holder = some holder → holder.Valid serde primitives system.relay

variable {serde primitives}

theorem System.valid_start (relay : RelayRuntimeState) : (start relay).Valid serde primitives :=
  fun _ held => nomatch held

theorem Persisted.valid {after : RelayRuntimeState} {relayMeta : RelayMeta}
    (persisted : Persisted serde primitives plan bytes now relay
      (.ok after (relayMeta, metadata))) :
    Holder.Valid serde primitives ⟨relay, plan, bytes, now, relayMeta, metadata, .persisted⟩
      after := by
  cases persisted with
  | stored header accepts historyClean lkgClean =>
    exact
      { accepts := accepts
        historyClean := historyClean
        lkgClean := lkgClean
        metadataAt := rfl
        filesAt := rfl
        limitAt := rfl
        found := fun _ => ⟨rfl, rfl⟩
        replaced := fun advanced => absurd rfl advanced }

variable {before : System} {steps : List (Step System Action Outcome)} {index : Nat}
  {entry : RelayRuntimeState}

theorem Moved.valid (moved : Moved serde primitives before after outcome)
    (valid : before.Valid serde primitives) : after.Valid serde primitives := by
  cases moved with
  | refused | observed | queued => exact valid
  | rejected | overtaken | finished => exact fun _ held => nomatch held
  | persisted relay _ waiting rest plan bytes now relayMeta metadata persisted =>
    rintro _ ⟨⟩
    exact persisted.valid
  | installed relay waiting holder artifact now stageAt grows =>
    have held := valid holder rfl
    rintro _ ⟨⟩
    refine
      { held with
        found := fun impossible => by cases impossible
        replaced := fun _ => ⟨rfl, ?_⟩ }
    rw [← (held.found stageAt).1]
    exact grows
  | recorded relay waiting holder artifact stageAt =>
    have held := valid holder rfl
    rintro _ ⟨⟩
    exact
      { held with
        found := fun impossible => by cases impossible
        replaced := fun _ => held.replaced (by rw [stageAt]; simp) }

theorem System.valid_before
    (isRun : IsRun (System.step serde primitives) (System.start relay) steps)
    (found : steps[index]? = some step) : step.before.Valid serde primitives :=
  isRun.invariant_before (fun system => system.Valid serde primitives) (System.valid_start relay)
    (fun _ accepted valid => (System.moved_of_accepted accepted).valid valid) found

theorem Moved.version_le (moved : Moved serde primitives before after outcome) :
    before.relay.inner.version ≤ after.relay.inner.version := by
  cases moved with
  | rejected _ _ _ _ _ _ _ _ persisted | persisted _ _ _ _ _ _ _ _ _ persisted =>
    exact Nat.le_of_eq (congrArg RelaySnapshot.version persisted.kept.symm)
  | installed relay waiting holder artifact now stageAt grows => exact Nat.le_of_lt grows
  | _ => exact Nat.le_refl _

/-! ### Results of a call -/

private theorem nextVersion_of_lt {version : Nat} (grows : version < nextVersion version) :
    nextVersion version = version + 1 := by
  unfold nextVersion at grows ⊢
  have bound := Nat.mod_lt (version + 1) (show 0 < 2 ^ 64 by decide)
  by_cases fits : version + 1 < 2 ^ 64
  · exact Nat.mod_eq_of_lt fits
  · omega

theorem Holder.Valid.unchanged_iff {holder : Holder} (valid : holder.Valid serde primitives relay)
    (stageAt : holder.stage = .persisted)
    (cause : relay.enforceLimits holder.bytes.length ≠ .ok () ∨
      holder.metadata.version ≤ relay.inner.version) :
    Unchanged holder.entry relay ↔
      Harmless serde primitives holder.plan holder.bytes holder.now holder.entry := by
  obtain ⟨innerAt, historyAt⟩ := valid.found stageAt
  have wraps : nextVersion holder.entry.inner.version ≤ holder.entry.inner.version := by
    rcases cause with limited | behind
    · have sameLimit : relay.enforceLimits holder.bytes.length =
          holder.entry.enforceLimits holder.bytes.length := by
        unfold RelayRuntimeState.enforceLimits
        rw [valid.limitAt]
      exact absurd (sameLimit.trans valid.accepts.1) limited
    · rw [valid.metadataAt, innerAt] at behind
      exact behind
  have same := promotedFiles_sameDurable_iff serde holder.bytes holder.metadata
    holder.entry.files valid.historyClean valid.lkgClean
  rw [← valid.filesAt, valid.metadataAt] at same
  constructor
  · intro unchanged
    exact
      { append := fun _ unclean => by rw [valid.historyClean] at unclean; cases unclean
        promotion := fun _ _ unclean => by rw [valid.lkgClean] at unclean; cases unclean
        wraps := fun _ _ _ _ => same.mp unchanged.files }
  · intro harmless
    exact ⟨innerAt, historyAt,
      same.mpr (harmless.wraps valid.accepts valid.historyClean valid.lkgClean wraps)⟩

theorem Moved.rejected_iff {reason : RelayError}
    (moved : Moved serde primitives before after (.rejected entry plan bytes now reason))
    (valid : before.Valid serde primitives) :
    Unchanged entry after.relay ↔ Harmless serde primitives plan bytes now entry := by
  cases moved with
  | rejected relay left waiting rest _ _ _ _ persisted => exact persisted.unchanged_iff
  | overtaken relay waiting holder _ stageAt cause =>
    exact (valid holder rfl).unchanged_iff stageAt cause

theorem Moved.published_spec
    (moved : Moved serde primitives before after (.published entry bytes metadata))
    (valid : before.Valid serde primitives) :
    metadata.version = entry.inner.version + 1 ∧
      after.relay.inner.version = metadata.version ∧
      after.relay.files.read .lkgArtifact = some bytes ∧
      after.relay.files.read .lkgMetadata = some (serde.metadataToVec metadata) := by
  cases moved with
  | finished relay waiting holder stageAt =>
    have held := valid holder rfl
    obtain ⟨versionAt, grows⟩ := held.replaced (by rw [stageAt]; simp)
    have inPlace := promotedFiles_inPlace serde holder.bytes holder.metadata
      holder.entry.files held.historyClean held.lkgClean
    rw [← held.filesAt] at inPlace
    refine ⟨?_, versionAt, inPlace.lkgArtifact, inPlace.lkgMetadata⟩
    rw [held.metadataAt] at grows ⊢
    exact nextVersion_of_lt grows

/-- Some step up to `index` took the free lock and found the relay as `entry`. -/
def TookLock (steps : List (Step System Action Outcome)) (index : Nat)
    (entry : RelayRuntimeState) : Prop :=
  ∃ (first : Nat) (opening : Step System Action Outcome), first ≤ index ∧
    steps[first]? = some opening ∧ opening.before.holder = none ∧ opening.before.relay = entry

theorem TookLock.later (took : TookLock steps index entry) : TookLock steps (index + 1) entry := by
  obtain ⟨first, opening, ordered, found, free, relayAt⟩ := took
  exact ⟨first, opening, Nat.le_succ_of_le ordered, found, free, relayAt⟩

theorem System.tookLock (isRun : IsRun (System.step serde primitives) (System.start relay) steps)
    (found : steps[index]? = some step) {holder : Holder}
    (held : step.before.holder = some holder) : TookLock steps index holder.entry := by
  induction index generalizing step holder with
  | zero =>
    rw [isRun.before_zero found] at held
    cases held
  | succ index ih =>
    obtain ⟨earlier, foundEarlier⟩ := found_of_lt found (Nat.le_succ index)
    rw [isRun.before_succ foundEarlier found] at held
    have moved := System.moved_of_accepted (isRun.accepted_at foundEarlier)
    obtain ⟨before, label, after, output⟩ := earlier
    change Moved serde primitives before after output at moved
    cases moved with
    | refused | observed | queued => exact (ih foundEarlier held).later
    | rejected | overtaken | finished => cases held
    | persisted =>
      cases held
      exact ⟨index, _, Nat.le_succ index, foundEarlier, rfl, rfl⟩
    | installed | recorded =>
      cases held
      exact (ih foundEarlier rfl).later

/-- The relay as a call found it that comes back from inside the lock. -/
def Outcome.entry? : Outcome → Option RelayRuntimeState
  | .rejected entry _ _ _ _ | .published entry _ _ => some entry
  | _ => none

theorem System.tookLock_of_output
    (isRun : IsRun (System.step serde primitives) (System.start relay) steps)
    (found : steps[index]? = some step) (outputAt : step.output.entry? = some entry) :
    TookLock steps index entry := by
  have moved := System.moved_of_accepted (isRun.accepted_at found)
  obtain ⟨before, label, after, output⟩ := step
  change Moved serde primitives before after output at moved
  change output.entry? = some entry at outputAt
  cases moved with
  | rejected =>
    cases outputAt
    exact ⟨index, _, Nat.le_refl index, found, rfl, rfl⟩
  | overtaken | finished =>
    cases outputAt
    exact System.tookLock isRun found rfl
  | _ => cases outputAt

theorem System.version_persists
    (isRun : IsRun (System.step serde primitives) (System.start relay) steps) {first last : Nat}
    {opening closing : Step System Action Outcome} {version : Nat}
    (foundOpening : steps[first]? = some opening) (foundClosing : steps[last]? = some closing)
    (ordered : first < last) (reached : version ≤ opening.after.relay.inner.version) :
    version ≤ closing.before.relay.inner.version :=
  isRun.persists (fun system => version ≤ system.relay.inner.version) foundOpening foundClosing
    ordered reached fun _ _ _ _ found kept =>
      Nat.le_trans kept (System.moved_of_accepted (isRun.accepted_at found)).version_le

theorem publish_results (relay : RelayRuntimeState) (steps : List (Step System Action Outcome))
    (isRun : IsRun (System.step serde primitives) (System.start relay) steps) (index : Nat)
    (step : Step System Action Outcome) (found : steps[index]? = some step) :
    (∀ reason, step.output = .refused reason → step.after = step.before) ∧
    (∀ entry plan bytes now reason, step.output = .rejected entry plan bytes now reason →
      TookLock steps index entry ∧
      (Unchanged entry step.after.relay ↔ Harmless serde primitives plan bytes now entry)) ∧
    (∀ entry bytes metadata, step.output = .published entry bytes metadata →
      TookLock steps index entry ∧
      metadata.version = entry.inner.version + 1 ∧
      step.after.relay.files.read .lkgArtifact = some bytes ∧
      step.after.relay.files.read .lkgMetadata = some (serde.metadataToVec metadata) ∧
      ∀ (later : Nat) (reading : Step System Action Outcome) (snapshot : RelaySnapshot),
        index < later → steps[later]? = some reading → reading.output = .observed snapshot →
        metadata.version ≤ snapshot.version) := by
  have moved := System.moved_of_accepted (isRun.accepted_at found)
  have valid := System.valid_before isRun found
  refine ⟨?_, ?_, ?_⟩
  · intro reason outputAt
    rw [outputAt] at moved
    generalize step.before = before at moved ⊢
    generalize step.after = after at moved ⊢
    cases moved
    rfl
  · intro entry plan bytes now reason outputAt
    refine ⟨System.tookLock_of_output isRun found (by rw [outputAt]; rfl), ?_⟩
    rw [outputAt] at moved
    exact moved.rejected_iff valid
  · intro entry bytes metadata outputAt
    refine ⟨System.tookLock_of_output isRun found (by rw [outputAt]; rfl), ?_⟩
    rw [outputAt] at moved
    obtain ⟨versionAt, installedAt, artifactAt, metadataAt⟩ := moved.published_spec valid
    refine ⟨versionAt, artifactAt, metadataAt, ?_⟩
    intro later reading snapshot ordered foundReading observes
    have reached := System.version_persists isRun found foundReading ordered
      (Nat.le_of_eq installedAt.symm)
    have reads := System.moved_of_accepted (isRun.accepted_at foundReading)
    rw [observes] at reads
    generalize reading.before = before at reads reached
    generalize reading.after = after at reads
    cases reads
    exact reached

end

def metadataRenameFails : PublishPlan :=
  { history := PairPlan.allDone
    lkg :=
      { PairPlan.allDone with
        metadata := { create := .done, write := .done, sync := .done, rename := .failed 0 } }
    removeArtifact := .done
    removeMetadata := .done
    state := StatePlan.allDone }

def halfPromoted : List Action :=
  [.call smallArtifact, .acquire 0 metadataRenameFails 0]

theorem rejected_publish_replaces_lkg_artifact :
    ∃ step,
      (trace (System.step smallSerde tabulated) (System.start (freshRelay ∅)) halfPromoted)[1]? =
        some step ∧
      step.output = .rejected (freshRelay ∅) metadataRenameFails smallArtifact 0
        (.storage .metadata) ∧
      (freshRelay ∅).files.read .lkgArtifact = none ∧
      step.after.relay.files.read .lkgArtifact = some smallArtifact ∧
      ¬Unchanged (freshRelay ∅) step.after.relay := by
  refine ⟨_, rfl, rfl, rfl, by decide, ?_⟩
  intro unchanged
  have same := unchanged.files .lkgArtifact rfl
  revert same
  decide

def acceptedThenRead : List Action :=
  [.call smallArtifact, .acquire 0 { metadataRenameFails with lkg := .allDone } 0, .install 0,
    .record, .finish, .snapshot]

theorem publish_results_acceptedThenRead :
    ∃ finish reading metadata snapshot,
      (trace (System.step smallSerde tabulated) (System.start (freshRelay ∅))
        acceptedThenRead)[4]? = some finish ∧
      finish.output = .published (freshRelay ∅) smallArtifact metadata ∧
      (trace (System.step smallSerde tabulated) (System.start (freshRelay ∅))
        acceptedThenRead)[5]? = some reading ∧
      reading.output = .observed snapshot ∧
      metadata.version = 1 ∧
      finish.after.relay.files.read .lkgArtifact = some smallArtifact ∧
      metadata.version ≤ snapshot.version := by
  refine ⟨_, _, _, _, rfl, rfl, rfl, rfl, ?_⟩
  obtain ⟨_, version, artifact, _, later⟩ := (publish_results (freshRelay ∅)
    (trace (System.step smallSerde tabulated) (System.start (freshRelay ∅)) acceptedThenRead)
    (trace_isRun _ _ _) 4 _ rfl).2.2 _ _ _ rfl
  exact ⟨version, artifact, later 5 _ _ (by decide) rfl rfl⟩

end Pavis.Relay
