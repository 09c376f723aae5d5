/-
Looking up the artifact of an advertised version.

A publish replaces the snapshot under one lock and records the artifact in the
history under another. Readers take snapshots and look artifacts up at any point
between the two.
-/

import Pavis.Relay.LongPoll
import Pavis.Relay.Startup

namespace Pavis.Relay

open ByteText LabelledRun Pavis.Pvs

structure RelaySnapshotView where
  version : Nat
  pvsBytes : Bytes
  relayMeta : RelayMeta
  updatedAt : Nat
  artifactChecksum : Text
  deriving DecidableEq

structure RelayArtifactView where
  bytes : Bytes
  relayMeta : RelayMeta
  generatedAt : Nat
  deriving DecidableEq

def RelayRuntimeState.snapshot (relay : RelayRuntimeState) : RelaySnapshotView :=
  { version := relay.inner.version
    pvsBytes := relay.inner.artifact.bytes
    relayMeta := relay.inner.artifact.relayMeta
    updatedAt := relay.inner.updatedAt
    artifactChecksum := relay.inner.artifactChecksum }

def RelayRuntimeState.artifact (relay : RelayRuntimeState) (version : Nat) :
    Option RelayArtifactView :=
  (relay.history version).map fun artifact =>
    { bytes := artifact.bytes
      relayMeta := artifact.relayMeta
      generatedAt := artifact.generatedAt }

/-- A reader holds a lock only while it copies, so each read is one step. -/
inductive ReaderAction where
  | relay (action : PollAction)
  | snapshot
  | artifact (version : Nat)

inductive ReaderEvent where
  | relay (event : PollEvent)
  | snapshot (view : RelaySnapshotView)
  | artifact (view : Option RelayArtifactView)
  deriving DecidableEq

def PollSystem.readerStep : Machine PollSystem ReaderAction ReaderEvent := fun system action =>
  match action with
  | .relay action => (system.step action).map fun result => (result.1, .relay result.2)
  | .snapshot => some (system, .snapshot system.relay.snapshot)
  | .artifact version => some (system, .artifact (system.relay.artifact version))

variable {before after : PollSystem}

/-- What a step does to the versions: nothing, or a call replaces the snapshot,
or a call puts what it published into the history. -/
inductive Archiving (before after : PollSystem) : Prop where
  | keeps (inner : after.relay.inner = before.relay.inner)
      (history : after.relay.history = before.relay.history)
      (pending : ∀ call publishing, publishing.stage = .installed →
        (after.publishers call = some publishing ↔ before.publishers call = some publishing))
  | installs (call : Nat) (publishing : Publishing) (stage : publishing.stage = .installed)
      (free : before.publishers call = none)
      (grows : before.relay.inner.version < publishing.version)
      (version : after.relay.inner.version = publishing.version)
      (artifact : after.relay.inner.artifact = publishing.artifact)
      (history : after.relay.history = before.relay.history)
      (publishers : after.publishers = Function.update before.publishers call (some publishing))
  | records (call : Nat) (publishing : Publishing) (stage : publishing.stage = .installed)
      (found : before.publishers call = some publishing)
      (inner : after.relay.inner = before.relay.inner)
      (history : after.relay.history =
        Function.update before.relay.history publishing.version (some publishing.artifact))
      (publishers : after.publishers =
        Function.update before.publishers call (some { publishing with stage := .recorded }))

variable {system : PollSystem} {call version : Nat} {publishing : Publishing}
  {step : Step PollSystem ReaderAction ReaderEvent}

theorem Archiving.of_recorded {next : Option Publishing}
    (found : before.publishers call = some publishing) (stage : publishing.stage ≠ .installed)
    (moves : ∀ later, next = some later → later.stage ≠ .installed)
    (inner : after.relay.inner = before.relay.inner)
    (history : after.relay.history = before.relay.history)
    (publishers : after.publishers = Function.update before.publishers call next) :
    Archiving before after := by
  apply keeps inner history
  intro other pending installed
  rw [publishers]
  by_cases same : other = call
  · subst same
    rw [Function.update_self, found]
    constructor
    · intro later
      exact absurd installed (moves pending later)
    · intro already
      cases already
      exact absurd installed stage
  · rw [Function.update_of_ne same]

theorem Polled.archiving {event : PollEvent} (polled : Polled before after event) :
    Archiving before after := by
  cases polled with
  | handler _ same =>
    rw [same]
    exact .keeps rfl rfl fun _ _ _ => Iff.rfl
  | other _ publishers _ relayAt =>
    exact .keeps (by rw [relayAt]) (by rw [relayAt]) fun _ _ _ => by rw [publishers]
  | publisher call next moves publishers =>
    generalize found : before.publishers call = current at moves
    cases moves with
    | installs publishing stage grows _ _ relayAt =>
      exact .installs call publishing stage found grows (by rw [relayAt]; rfl)
        (by rw [relayAt]; rfl) (by rw [relayAt]; rfl) publishers
    | records publishing stage relayAt =>
      exact .records call publishing stage found (by rw [relayAt]; rfl) (by rw [relayAt]; rfl)
        publishers
    | notifies publishing stage _ relayAt | skips publishing stage _ relayAt =>
      refine .of_recorded found (by simp [stage]) ?_ (by rw [relayAt]) (by rw [relayAt]) publishers
      intro later moved
      cases moved
      simp
    | completes publishing stage relayAt =>
      refine .of_recorded found (by simp [stage]) ?_ (by rw [relayAt]; rfl) (by rw [relayAt]; rfl)
        publishers
      intro later moved
      cases moved

theorem PollSystem.archiving_of_accepted (accepted : step.Accepted readerStep) :
    Archiving step.before step.after := by
  obtain ⟨before, label, after, event⟩ := step
  change readerStep before label = some (after, event) at accepted
  change Archiving before after
  unfold readerStep at accepted
  cases label with
  | relay =>
    obtain ⟨result, stepped, same⟩ := Option.map_eq_some_iff.mp accepted
    cases same
    have polled := polled_of_accepted
      (show Step.Accepted step ⟨before, _, result.1, result.2⟩ from stepped)
    exact polled.archiving
  | snapshot | artifact =>
    cases accepted
    exact .keeps rfl rfl fun _ _ _ => Iff.rfl

theorem PollSystem.snapshot_of_accepted (accepted : step.Accepted readerStep)
    {seen : RelaySnapshotView} (reads : step.output = .snapshot seen) :
    step.after = step.before ∧ step.before.relay.snapshot = seen := by
  obtain ⟨before, label, after, event⟩ := step
  change readerStep before label = some (after, event) at accepted
  change event = .snapshot seen at reads
  subst reads
  unfold readerStep at accepted
  cases label with
  | relay =>
    obtain ⟨result, _, same⟩ := Option.map_eq_some_iff.mp accepted
    cases same
  | snapshot =>
    cases accepted
    exact ⟨rfl, rfl⟩
  | artifact => cases accepted

theorem PollSystem.artifact_of_accepted (accepted : step.Accepted readerStep)
    (asks : step.label = .artifact version) {answer : Option RelayArtifactView}
    (answers : step.output = .artifact answer) : step.before.relay.artifact version = answer := by
  obtain ⟨before, label, after, event⟩ := step
  change readerStep before label = some (after, event) at accepted
  change label = .artifact version at asks
  change event = .artifact answer at answers
  subst asks answers
  cases accepted
  rfl

/-! ### Every version has one artifact -/

/-- A call has advertised the version and not put it into the history yet. -/
def PollSystem.Unrecorded (system : PollSystem) (version : Nat) : Prop :=
  ∃ call publishing, system.publishers call = some publishing ∧
    publishing.version = version ∧ publishing.stage = .installed

structure Archived (system : PollSystem) : Prop where
  recordedBelow : ∀ version artifact, system.relay.history version = some artifact →
    version ≤ system.relay.inner.version
  pendingBelow : ∀ call publishing, system.publishers call = some publishing →
    publishing.stage = .installed → publishing.version ≤ system.relay.inner.version
  pendingUnrecorded : ∀ call publishing, system.publishers call = some publishing →
    publishing.stage = .installed → system.relay.history publishing.version = none
  pendingAlone : ∀ call other publishing competing,
    system.publishers call = some publishing → publishing.stage = .installed →
    system.publishers other = some competing → competing.stage = .installed →
    publishing.version = competing.version → call = other

/-- The artifact of a version is in the history, or on its way there. -/
def PollSystem.Holds (system : PollSystem) (version : Nat) (artifact : RelayArtifact) : Prop :=
  system.relay.history version = some artifact ∨
    ∃ call publishing, system.publishers call = some publishing ∧
      publishing.stage = .installed ∧ publishing.version = version ∧
      publishing.artifact = artifact

theorem Archived.keeps (archived : Archived before) (inner : after.relay.inner = before.relay.inner)
    (history : after.relay.history = before.relay.history)
    (pending : ∀ call publishing, publishing.stage = .installed →
      (after.publishers call = some publishing ↔ before.publishers call = some publishing)) :
    Archived after := by
  constructor
  · rw [history, inner]
    exact archived.recordedBelow
  · intro call publishing found stage
    rw [inner]
    exact archived.pendingBelow call publishing ((pending call publishing stage).mp found) stage
  · intro call publishing found stage
    rw [history]
    exact archived.pendingUnrecorded call publishing
      ((pending call publishing stage).mp found) stage
  · intro call other publishing competing found stage foundOther stageOther
    exact archived.pendingAlone call other publishing competing
      ((pending call publishing stage).mp found) stage
      ((pending other competing stageOther).mp foundOther) stageOther

theorem Archived.installs (archived : Archived before)
    (grows : before.relay.inner.version < publishing.version)
    (version : after.relay.inner.version = publishing.version)
    (history : after.relay.history = before.relay.history)
    (publishers : after.publishers = Function.update before.publishers call (some publishing)) :
    Archived after := by
  have fresh : before.relay.history publishing.version = none := by
    cases recorded : before.relay.history publishing.version with
    | none => rfl
    | some artifact =>
      have below := archived.recordedBelow publishing.version artifact recorded
      omega
  have others : ∀ other competing, other ≠ call →
      after.publishers other = some competing → before.publishers other = some competing := by
    intro other competing different found
    rwa [publishers, Function.update_of_ne different] at found
  have itself : ∀ competing, after.publishers call = some competing →
      competing = publishing := by
    intro competing found
    rw [publishers, Function.update_self] at found
    exact (Option.some.inj found).symm
  constructor
  · intro recordedVersion recordedArtifact recorded
    rw [history] at recorded
    have below := archived.recordedBelow recordedVersion recordedArtifact recorded
    omega
  · intro other competing found competingStage
    by_cases same : other = call
    · subst same
      rw [itself competing found]
      omega
    · have below := archived.pendingBelow other competing (others other competing same found)
        competingStage
      omega
  · intro other competing found competingStage
    rw [history]
    by_cases same : other = call
    · subst same
      rw [itself competing found]
      exact fresh
    · exact archived.pendingUnrecorded other competing (others other competing same found)
        competingStage
  · intro left right leftCall rightCall foundLeft stageLeft foundRight stageRight versions
    by_cases leftSame : left = call
    · by_cases rightSame : right = call
      · rw [leftSame, rightSame]
      · rw [leftSame] at foundLeft
        have below := archived.pendingBelow right rightCall
          (others right rightCall rightSame foundRight) stageRight
        rw [itself leftCall foundLeft] at versions
        omega
    · have below := archived.pendingBelow left leftCall
        (others left leftCall leftSame foundLeft) stageLeft
      by_cases rightSame : right = call
      · rw [rightSame] at foundRight
        rw [itself rightCall foundRight] at versions
        omega
      · exact archived.pendingAlone left right leftCall rightCall
          (others left leftCall leftSame foundLeft) stageLeft
          (others right rightCall rightSame foundRight) stageRight versions

theorem Archived.records (archived : Archived before) (stage : publishing.stage = .installed)
    (found : before.publishers call = some publishing)
    (inner : after.relay.inner = before.relay.inner) (history : after.relay.history =
      Function.update before.relay.history publishing.version (some publishing.artifact))
    (publishers : after.publishers =
      Function.update before.publishers call (some { publishing with stage := .recorded })) :
    Archived after := by
  have pending : ∀ other competing, after.publishers other = some competing →
      competing.stage = .installed →
      other ≠ call ∧ before.publishers other = some competing := by
    intro other competing foundOther competingStage
    rw [publishers] at foundOther
    by_cases same : other = call
    · rw [same, Function.update_self] at foundOther
      cases foundOther
      cases competingStage
    · rw [Function.update_of_ne same] at foundOther
      exact ⟨same, foundOther⟩
  constructor
  · intro recordedVersion recordedArtifact recorded
    rw [history] at recorded
    rw [inner]
    by_cases same : recordedVersion = publishing.version
    · rw [same]
      exact archived.pendingBelow call publishing found stage
    · rw [Function.update_of_ne same] at recorded
      exact archived.recordedBelow recordedVersion recordedArtifact recorded
  · intro other competing foundOther competingStage
    rw [inner]
    exact archived.pendingBelow other competing
      (pending other competing foundOther competingStage).2 competingStage
  · intro other competing foundOther competingStage
    obtain ⟨different, foundBefore⟩ := pending other competing foundOther competingStage
    rw [history, Function.update_of_ne]
    · exact archived.pendingUnrecorded other competing foundBefore competingStage
    · intro same
      exact different (archived.pendingAlone other call competing publishing foundBefore
        competingStage found stage same)
  · intro left right leftCall rightCall foundLeft stageLeft foundRight stageRight
    exact archived.pendingAlone left right leftCall rightCall
      (pending left leftCall foundLeft stageLeft).2 stageLeft
      (pending right rightCall foundRight stageRight).2 stageRight

theorem Archived.kept (steps : Archiving before after) (archived : Archived before) :
    Archived after := by
  cases steps with
  | keeps inner history pending => exact archived.keeps inner history pending
  | installs call publishing _ _ grows version _ history publishers =>
    exact archived.installs grows version history publishers
  | records call publishing stage found inner history publishers =>
    exact archived.records stage found inner history publishers

theorem PollSystem.Holds.kept {artifact : RelayArtifact} (steps : Archiving before after)
    (archived : Archived before) (holds : before.Holds version artifact) :
    after.Holds version artifact := by
  cases steps with
  | keeps inner history pending =>
    rcases holds with recorded | ⟨call, publishing, found, stage, versions, artifacts⟩
    · left
      rw [history]
      exact recorded
    · right
      exact ⟨call, publishing, (pending call publishing stage).mpr found, stage, versions,
        artifacts⟩
  | installs call publishing stage free grows installedVersion installedArtifact history
      publishers =>
      rcases holds with recorded | ⟨other, competing, found, stageOther, versions, artifacts⟩
      · left
        rw [history]
        exact recorded
      · right
        refine ⟨other, competing, ?_, stageOther, versions, artifacts⟩
        rw [publishers, Function.update_of_ne, found]
        intro same
        rw [same, free] at found
        cases found
  | records call publishing stage found inner history publishers =>
    rcases holds with recorded | ⟨other, competing, foundOther, stageOther, versions, artifacts⟩
    · left
      rw [history, Function.update_of_ne]
      · exact recorded
      · intro same
        have unrecorded := archived.pendingUnrecorded call publishing found stage
        rw [← same, recorded] at unrecorded
        cases unrecorded
    · by_cases same : other = call
      · rw [same, found] at foundOther
        cases foundOther
        left
        rw [history, versions, artifacts, Function.update_self]
      · right
        refine ⟨other, competing, ?_, stageOther, versions, artifacts⟩
        rw [publishers, Function.update_of_ne same, foundOther]

/-- The snapshot itself is one of the artifacts held. -/
def PollSystem.Advertises (system : PollSystem) : Prop :=
  Archived system ∧ system.Holds system.relay.inner.version system.relay.inner.artifact

theorem PollSystem.Advertises.kept (steps : Archiving before after)
    (advertises : before.Advertises) : after.Advertises := by
  obtain ⟨archived, holds⟩ := advertises
  constructor
  · exact archived.kept steps
  · cases steps with
    | keeps inner history pending =>
      rw [inner]
      exact holds.kept (.keeps inner history pending) archived
    | installs call publishing stage free grows version artifact history publishers =>
      right
      refine ⟨call, publishing, ?_, stage, version.symm, artifact.symm⟩
      rw [publishers, Function.update_self]
    | records call publishing stage found inner history publishers =>
      rw [inner]
      exact holds.kept (.records call publishing stage found inner history publishers) archived

theorem RelayRuntimeState.newWithOptions_history {primitives : Primitives} {bytes : Bytes}
    {maxPvsBytes now : Nat} {files : Files} {relay : RelayRuntimeState}
    (created : newWithOptions primitives version bytes maxPvsBytes now files = .ok relay) :
    relay.history =
      Function.update (fun _ => none) relay.inner.version (some relay.inner.artifact) := by
  unfold newWithOptions at created
  dsimp only at created
  split at created
  · cases created
    rfl
  · split at created
    · cases created
    · cases created
      rfl

theorem PollSystem.start_advertises {relay : RelayRuntimeState}
    (history : relay.history =
      Function.update (fun _ => none) relay.inner.version (some relay.inner.artifact))
    (longPollEnabled : Bool) (clock : Nat) : (start relay longPollEnabled clock).Advertises := by
  constructor
  · constructor
    · intro version artifact recorded
      change relay.history version = some artifact at recorded
      change version ≤ relay.inner.version
      by_cases same : version = relay.inner.version
      · exact Nat.le_of_eq same
      · rw [history, Function.update_of_ne same] at recorded
        cases recorded
    · intro call publishing found
      cases found
    · intro call publishing found
      cases found
    · intro call other publishing competing found
      cases found
  · left
    change relay.history relay.inner.version = some relay.inner.artifact
    rw [history, Function.update_self]

theorem PollSystem.Holds.lookup_iff {artifact : RelayArtifact} (archived : Archived system)
    (holds : system.Holds version artifact) :
    (system.relay.artifact version).map (fun view => view.bytes) = some artifact.bytes ↔
      ¬ system.Unrecorded version := by
  unfold RelayRuntimeState.artifact
  rcases holds with recorded | ⟨call, publishing, found, stage, versions, artifacts⟩
  · simp only [recorded, Option.map_some, true_iff]
    intro unrecorded
    obtain ⟨call, publishing, found, versions, stage⟩ := unrecorded
    have missing := archived.pendingUnrecorded call publishing found stage
    rw [versions, recorded] at missing
    cases missing
  · have missing := archived.pendingUnrecorded call publishing found stage
    rw [versions] at missing
    simp only [missing, Option.map_none, reduceCtorEq, false_iff, not_not]
    exact ⟨call, publishing, found, versions, stage⟩

/-- After a reader has seen a version, a lookup of that version finds exactly
the bytes seen, unless the call that advertised it has yet to record it. -/
theorem advertised_version_found_iff (primitives : Primitives) (version : Nat) (bytes : Bytes)
    (maxPvsBytes now : Nat) (files : Files) (relay : RelayRuntimeState)
    (created : RelayRuntimeState.newWithOptions primitives version bytes maxPvsBytes now files =
      .ok relay)
    (longPollEnabled : Bool) (clock : Nat) (steps : List (Step PollSystem ReaderAction ReaderEvent))
    (isRun : IsRun PollSystem.readerStep (.start relay longPollEnabled clock) steps)
    (first last : Nat) (ordered : first < last)
    (reading lookup : Step PollSystem ReaderAction ReaderEvent)
    (foundReading : steps[first]? = some reading) (foundLookup : steps[last]? = some lookup)
    (seen : RelaySnapshotView) (reads : reading.output = .snapshot seen)
    (asks : lookup.label = .artifact seen.version)
    (answer : Option RelayArtifactView) (answers : lookup.output = .artifact answer) :
    answer.map (fun view => view.bytes) = some seen.pvsBytes ↔
      ¬ lookup.before.Unrecorded seen.version := by
  have starts := PollSystem.start_advertises
    (RelayRuntimeState.newWithOptions_history created) longPollEnabled clock
  have advertises : ∀ {index : Nat} {step : Step PollSystem ReaderAction ReaderEvent},
      steps[index]? = some step → step.before.Advertises :=
    isRun.invariant_before PollSystem.Advertises starts
      (fun step accepted => PollSystem.Advertises.kept (PollSystem.archiving_of_accepted accepted))
  obtain ⟨sameState, rfl⟩ : reading.after = reading.before ∧
      reading.before.relay.snapshot = seen := by
    have accepted := isRun.accepted_at foundReading
    exact PollSystem.snapshot_of_accepted accepted reads
  have held : lookup.before.Holds reading.before.relay.inner.version
      reading.before.relay.inner.artifact := by
    apply isRun.persists (fun system => system.Holds reading.before.relay.inner.version
      reading.before.relay.inner.artifact) foundReading foundLookup ordered
    · rw [sameState]
      exact (advertises foundReading).2
    · intro index step _ _ found holds
      exact holds.kept (PollSystem.archiving_of_accepted (isRun.accepted_at found))
        (advertises found).1
  have accepted := isRun.accepted_at foundLookup
  obtain rfl := PollSystem.artifact_of_accepted accepted asks answers
  exact held.lookup_iff (advertises foundLookup).1

def lookupBeforeRecorded : List ReaderAction :=
  [.relay (.publish 0 1 [8] RelayMeta.empty [97] 0), .snapshot, .artifact 1]

def lookupAfterRecorded : List ReaderAction :=
  [.relay (.publish 0 1 [8] RelayMeta.empty [97] 0), .snapshot, .relay (.resume 0), .artifact 1]

theorem advertised_version_not_found :
    RelayRuntimeState.newWithOptions tabulated 0 [] 0 0 ∅ = .ok (freshRelay ∅) ∧
      ∃ reading lookup seen,
        (trace PollSystem.readerStep (.start (freshRelay ∅) true 0) lookupBeforeRecorded)[1]? =
            some reading ∧
          reading.output = .snapshot seen ∧ seen.version = 1 ∧ seen.pvsBytes = [8] ∧
          (trace PollSystem.readerStep (.start (freshRelay ∅) true 0) lookupBeforeRecorded)[2]? =
            some lookup ∧
          lookup.label = .artifact seen.version ∧ lookup.output = .artifact none :=
  ⟨rfl, _, _, _, rfl, rfl, rfl, rfl, rfl, rfl, rfl⟩

theorem advertised_version_found_iff_afterRecorded :
    ∃ lookup,
      (trace PollSystem.readerStep (.start (freshRelay ∅) true 0) lookupAfterRecorded)[3]? =
          some lookup ∧
        lookup.output = .artifact (some ⟨[8], RelayMeta.empty, 0⟩) ∧
        ¬ lookup.before.Unrecorded 1 := by
  refine ⟨_, rfl, rfl, ?_⟩
  exact (advertised_version_found_iff tabulated 0 [] 0 0 ∅ (freshRelay ∅) rfl true 0 _
    (trace_isRun _ _ lookupAfterRecorded) 1 3 (by decide) _ _ rfl rfl _ rfl rfl _ rfl).mp rfl

end Pavis.Relay
