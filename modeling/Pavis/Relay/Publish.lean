/-
Publishing an artifact.

The steps of `publish_bytes` before the in-memory update are `persist`; they run while
the publish lock is held.
-/

import Pavis.Relay.Storage

namespace Pavis.Relay

open ByteText FaultyDisk Pavis.Pvs

structure RelayMeta where
  checksum : Text
  algorithm : Text
  schemaVersion : Nat
  deriving DecidableEq

def RelayMeta.empty : RelayMeta := { checksum := [], algorithm := [], schemaVersion := 0 }

def RelayMeta.fromHeader (header : PvsHeader) : RelayMeta :=
  { checksum := header.checksumHex
    algorithm := header.algorithmLabel
    schemaVersion := header.version }

structure RelayArtifact where
  bytes : Bytes
  relayMeta : RelayMeta
  generatedAt : Nat
  deriving DecidableEq

structure RelaySnapshot where
  version : Nat
  artifact : RelayArtifact
  updatedAt : Nat
  artifactChecksum : Text
  deriving DecidableEq

/-- What the locks guard, together with the files. -/
structure RelayRuntimeState where
  inner : RelaySnapshot
  history : Nat → Option RelayArtifact
  ready : Bool
  maxPvsBytes : Nat
  files : Files

inductive RelayError where
  | policy (size limit : Nat)
  | config (reason : PvsError)
  | storage (reason : StorageError)
  | versionMonotonicity (current proposed : Nat)
  deriving DecidableEq

def executePlan (currentVersion proposedVersion : Nat) : Except RelayError Unit :=
  if proposedVersion ≤ currentVersion then
    .error (.versionMonotonicity currentVersion proposedVersion)
  else .ok ()

def RelayRuntimeState.enforceLimits (relay : RelayRuntimeState) (size : Nat) :
    Except RelayError Unit :=
  if relay.maxPvsBytes > 0 ∧ size > relay.maxPvsBytes then
    .error (.policy size relay.maxPvsBytes)
  else .ok ()

/-- The successor of a `u64`, which wraps in a release build. -/
def nextVersion (version : Nat) : Nat := (version + 1) % 2 ^ 64

structure PublishPlan where
  history : PairPlan
  lkg : PairPlan
  removeArtifact : Verdict
  removeMetadata : Verdict
  state : StatePlan
  deriving DecidableEq

section
variable (serde : Serde) (primitives : Primitives)

/-- The files of a version are removed; a failing removal is ignored. -/
def rollback (plan : PublishPlan) (version : Nat) (files : Files) :
    Result Files StorageError Unit :=
  (removeFile plan.removeArtifact StorageError.artifact (.historyArtifact version)
    files).ignoreError.andThen fun files _ =>
      (removeFile plan.removeMetadata StorageError.metadata (.historyMetadata version)
        files).ignoreError

def promoteOrRollback (plan : PublishPlan) (bytes : Bytes) (metadata : ArtifactMetadata)
    (files : Files) : Result Files StorageError Unit :=
  match promoteToLkg serde plan.lkg bytes metadata files with
  | .ok files _ => .ok files ()
  | .error files reason =>
    (rollback plan metadata.version files).andThen fun files _ => .error files reason
  | .crashed files => .crashed files

def persistFiles (plan : PublishPlan) (bytes : Bytes) (metadata : ArtifactMetadata)
    (files : Files) : Result Files StorageError Unit :=
  (appendToHistory serde plan.history metadata.version bytes metadata files).andThen
    fun files _ =>
      (promoteOrRollback serde plan bytes metadata files).andThen fun files _ =>
        (saveState serde plan.state { currentVersion := metadata.version } files).ignoreError

def RelayRuntimeState.metadataFor (relay : RelayRuntimeState) (bytes : Bytes) (now : Nat) :
    ArtifactMetadata :=
  { version := nextVersion relay.inner.version
    publishedAt := now
    checksum := checksumForBytes primitives bytes
    size := bytes.length }

def RelayRuntimeState.withFiles {α : Type} (relay : RelayRuntimeState)
    (result : Result Files StorageError Unit) (value : α) : Result RelayRuntimeState RelayError α :=
  match result with
  | .ok files _ => .ok { relay with files := files } value
  | .error files reason => .error { relay with files := files } (.storage reason)
  | .crashed files => .crashed { relay with files := files }

/-- The part of `publish_bytes` before the in-memory update. -/
def RelayRuntimeState.persist (plan : PublishPlan) (bytes : Bytes) (now : Nat)
    (relay : RelayRuntimeState) :
    Result RelayRuntimeState RelayError (RelayMeta × ArtifactMetadata) :=
  match relay.enforceLimits bytes.length with
  | .error reason => .error relay reason
  | .ok () =>
    match verify primitives bytes with
    | .error reason => .error relay (.config reason)
    | .ok header =>
      let metadata := relay.metadataFor primitives bytes now
      relay.withFiles (persistFiles serde plan bytes metadata relay.files)
        (RelayMeta.fromHeader header, metadata)

def relayArtifact (bytes : Bytes) (relayMeta : RelayMeta) (now : Nat) : RelayArtifact :=
  { bytes := bytes, relayMeta := relayMeta, generatedAt := now }

def RelayRuntimeState.install (relay : RelayRuntimeState) (version : Nat)
    (artifact : RelayArtifact) (checksum : Text) (now : Nat) : RelayRuntimeState :=
  { relay with
    inner :=
      { version := version
        artifact := artifact
        updatedAt := now
        artifactChecksum := checksum } }

def RelayRuntimeState.record (relay : RelayRuntimeState) (version : Nat)
    (artifact : RelayArtifact) : RelayRuntimeState :=
  { relay with history := Function.update relay.history version (some artifact) }

def RelayRuntimeState.markReady (relay : RelayRuntimeState) : RelayRuntimeState :=
  { relay with ready := true }

def RelayRuntimeState.publish (proposedVersion : Nat) (bytes : Bytes) (relayMeta : RelayMeta)
    (artifactChecksum : Text) (now : Nat) (relay : RelayRuntimeState) :
    Result RelayRuntimeState RelayError Unit :=
  match relay.enforceLimits bytes.length with
  | .error reason => .error relay reason
  | .ok () =>
    match executePlan relay.inner.version proposedVersion with
    | .error reason => .error relay reason
    | .ok () =>
      let artifact := relayArtifact bytes relayMeta now
      .ok ((relay.install proposedVersion artifact artifactChecksum now).record
        proposedVersion artifact).markReady ()

variable {bytes : Bytes} {now : Nat} {relay after : RelayRuntimeState}

theorem RelayRuntimeState.publish_of_ok {proposedVersion : Nat} {relayMeta : RelayMeta}
    {artifactChecksum : Text} {value : Unit}
    (succeeds : relay.publish proposedVersion bytes relayMeta artifactChecksum now =
      .ok after value) :
    relay.enforceLimits bytes.length = .ok () ∧
      executePlan relay.inner.version proposedVersion = .ok () ∧
      after = ((relay.install proposedVersion (relayArtifact bytes relayMeta now)
        artifactChecksum now).record proposedVersion
          (relayArtifact bytes relayMeta now)).markReady := by
  unfold RelayRuntimeState.publish at succeeds
  cases within : relay.enforceLimits bytes.length with
  | error =>
    rw [within] at succeeds
    cases succeeds
  | ok =>
    cases grows : executePlan relay.inner.version proposedVersion with
    | error =>
      rw [within, grows] at succeeds
      cases succeeds
    | ok =>
      rw [within, grows] at succeeds
      cases succeeds
      exact ⟨rfl, rfl, rfl⟩

/-- The clock is read once for the metadata and once for the snapshot. -/
def RelayRuntimeState.publishBytes (plan : PublishPlan) (bytes : Bytes) (now installedAt : Nat)
    (relay : RelayRuntimeState) : Result RelayRuntimeState RelayError ArtifactMetadata :=
  (relay.persist serde primitives plan bytes now).andThen fun relay prepared =>
    (relay.publish prepared.2.version bytes prepared.1 prepared.2.checksum installedAt).andThen
      fun relay _ => .ok relay prepared.2

variable {serde primitives}

theorem RelayRuntimeState.persist_inner (serde : Serde) (primitives : Primitives)
    (plan : PublishPlan) (bytes : Bytes) (now : Nat) (relay : RelayRuntimeState) :
    (relay.persist serde primitives plan bytes now).state.inner = relay.inner := by
  unfold RelayRuntimeState.persist
  split
  · rfl
  · split
    · rfl
    · dsimp only
      unfold RelayRuntimeState.withFiles
      split <;> rfl

theorem RelayRuntimeState.publish_error {proposedVersion : Nat} {relayMeta : RelayMeta}
    {artifactChecksum : Text} {reason : RelayError}
    (fails : relay.publish proposedVersion bytes relayMeta artifactChecksum now =
      .error after reason) : after = relay := by
  unfold RelayRuntimeState.publish at fails
  split at fails
  · cases fails
    rfl
  · split at fails
    · cases fails
      rfl
    · cases fails

theorem RelayRuntimeState.publishBytes_ok_bytes {plan : PublishPlan} {installedAt : Nat}
    {metadata : ArtifactMetadata}
    (succeeds : relay.publishBytes serde primitives plan bytes now installedAt =
      .ok after metadata) : after.inner.artifact.bytes = bytes := by
  obtain ⟨left, prepared, _, continued⟩ := Result.andThen_eq_ok.mp succeeds
  obtain ⟨_, _, published, same⟩ := Result.andThen_eq_ok.mp continued
  cases same
  obtain ⟨_, _, rfl⟩ := RelayRuntimeState.publish_of_ok published
  rfl

theorem RelayRuntimeState.publishBytes_error_inner {plan : PublishPlan} {installedAt : Nat}
    {reason : RelayError} (fails : relay.publishBytes serde primitives plan bytes now installedAt =
      .error after reason) : after.inner = relay.inner := by
  have kept := relay.persist_inner serde primitives plan bytes now
  rcases Result.andThen_eq_error.mp fails with persisted | ⟨left, prepared, persisted, continued⟩
  · rw [persisted] at kept
    exact kept
  · rw [persisted] at kept
    rcases Result.andThen_eq_error.mp continued with published | ⟨_, _, _, impossible⟩
    · rw [RelayRuntimeState.publish_error published]
      exact kept
    · cases impossible

end

/-- A relay without a limit that has published nothing. -/
def freshRelay (files : Files) : RelayRuntimeState :=
  { inner :=
      { version := 0
        artifact := relayArtifact [] RelayMeta.empty 0
        updatedAt := 0
        artifactChecksum := [] }
    history := Function.update (fun _ => none) 0 (some (relayArtifact [] RelayMeta.empty 0))
    ready := false
    maxPvsBytes := 0
    files := files }

end Pavis.Relay
