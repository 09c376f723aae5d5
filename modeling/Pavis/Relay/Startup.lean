/-
Starting the relay from its files.

Startup repairs the last known good pair, loads it, brings the cached version
in line with it and builds the in-memory state. It runs without faults. The
scans for orphaned and corrupt history entries only log, and are left out.
-/

import Pavis.Relay.Publish

namespace Pavis.Relay

open ByteText FaultyDisk Pavis.Pvs

inductive InitError where
  | repair (reason : StorageError)
  | load (reason : StorageError)
  | exceedsLimit (size limit : Nat)
  | state (reason : StorageError)
  | inspect (reason : PvsError)
  | crashed
  deriving DecidableEq

section
variable (serde : Serde) (primitives : Primitives)

/-- An empty artifact means that there is nothing to serve yet. -/
def RelayRuntimeState.newWithOptions (version : Nat) (bytes : Bytes) (maxPvsBytes now : Nat)
    (files : Files) : Except PvsError RelayRuntimeState :=
  let build (relayMeta : RelayMeta) (checksum : Text) : RelayRuntimeState :=
    let artifact := relayArtifact bytes relayMeta now
    { inner :=
        { version := version
          artifact := artifact
          updatedAt := now
          artifactChecksum := checksum }
      history := Function.update (fun _ => none) version (some artifact)
      ready := !bytes.isEmpty
      maxPvsBytes := maxPvsBytes
      files := files }
  if bytes.isEmpty then .ok (build RelayMeta.empty [])
  else
    match inspect primitives bytes with
    | .error reason => .error reason
    | .ok header => .ok (build (RelayMeta.fromHeader header) (checksumForBytes primitives bytes))

/-- The cached version is rewritten when it differs from the derived one. -/
def refreshState (derived : RelayState) (files : Files) : Except InitError Files :=
  match loadState serde files with
  | .error reason => .error (.state reason)
  | .ok cached =>
    if cached = some derived then .ok files
    else
      match saveState serde StatePlan.allDone derived files with
      | .ok files _ => .ok files
      | .error _ reason => .error (.state reason)
      | .crashed _ => .error .crashed

def startFrom (maxPvsBytes now : Nat) (derived : RelayState) (bytes : Bytes) (files : Files) :
    Except InitError RelayRuntimeState :=
  match refreshState serde derived files with
  | .error reason => .error reason
  | .ok files =>
    match RelayRuntimeState.newWithOptions primitives derived.currentVersion bytes maxPvsBytes
      now files with
    | .error reason => .error (.inspect reason)
    | .ok relay => .ok relay

def startRepaired (maxPvsBytes now : Nat) (files : Files) : Except InitError RelayRuntimeState :=
  match loadLkg serde files with
  | .error reason => .error (.load reason)
  | .ok none => startFrom serde primitives maxPvsBytes now { currentVersion := 0 } [] files
  | .ok (some (bytes, metadata)) =>
    if maxPvsBytes > 0 ∧ bytes.length > maxPvsBytes then
      .error (.exceedsLimit bytes.length maxPvsBytes)
    else
      startFrom serde primitives maxPvsBytes now (deriveStateFromLkg metadata) bytes files

def initState (maxPvsBytes now : Nat) (files : Files) : Except InitError RelayRuntimeState :=
  match repairLkg serde files with
  | .error _ reason => .error (.repair reason)
  | .crashed _ => .error .crashed
  | .ok files _ => startRepaired serde primitives maxPvsBytes now files

end

/-- The version, bytes and checksum that `get_config` answers with: nothing
until the relay is ready. -/
def RelayRuntimeState.served (relay : RelayRuntimeState) : Option (Nat × Bytes × Text) :=
  if relay.ready then
    some (relay.inner.version, relay.inner.artifact.bytes, relay.inner.artifactChecksum)
  else none

/-- The metadata in the answer of `get_status`. -/
def RelayRuntimeState.statusLkg (serde : Serde) (relay : RelayRuntimeState) :
    Option ArtifactMetadata :=
  match loadLkgMetadata serde relay.files with
  | .ok metadata => metadata
  | .error _ => none

variable {serde : Serde}

theorem RelayRuntimeState.statusLkg_eq {relay : RelayRuntimeState} {metadata : ArtifactMetadata}
    (stored : relay.files.read .lkgMetadata = some (serde.metadataToVec metadata)) :
    relay.statusLkg serde = some metadata := by
  simp [RelayRuntimeState.statusLkg, loadLkgMetadata, stored, serde.metadataRoundTrip]

/-- The cached version can be read, or is not there. -/
def StateReadable (serde : Serde) (files : Files) : Prop :=
  ∀ bytes, files.read .stateJson = some bytes → ∃ state, serde.stateFromSlice bytes = some state

theorem StateReadable.of_same {before after : Files} (readable : StateReadable serde before)
    (same : after.read .stateJson = before.read .stateJson) : StateReadable serde after := by
  intro bytes found
  exact readable bytes (same.symm.trans found)

theorem StateReadable.saveState {files : Files} (readable : StateReadable serde files)
    (plan : StatePlan) (state : RelayState) :
    StateReadable serde (saveState serde plan state files).state := by
  rw [saveState_state]
  split
  · intro bytes found
    rw [writeAtomic_target _ _ _ _ StoragePath.stateJson.ne_tmp] at found
    split at found
    · cases found
      exact ⟨state, serde.stateRoundTrip state⟩
    · exact readable bytes found
  · exact readable

theorem refreshState_ok {files : Files} (readable : StateReadable serde files)
    (derived : RelayState) :
    ∃ after, refreshState serde derived files = .ok after ∧
      files.SameExcept after [.stateJson, .tmp .stateJson] ∧ StateReadable serde after := by
  have loads : ∃ cached, loadState serde files = .ok cached := by
    unfold loadState
    cases found : files.read .stateJson with
    | none => exact ⟨none, rfl⟩
    | some bytes =>
      obtain ⟨state, decodes⟩ := readable bytes found
      exact ⟨some state, by simp [decodes]⟩
  obtain ⟨cached, loaded⟩ := loads
  unfold refreshState
  rw [loaded]
  simp only
  split
  · exact ⟨files, rfl, .refl files _, readable⟩
  · exact ⟨_, rfl, saveState_sameExcept serde StatePlan.allDone derived files,
      readable.saveState StatePlan.allDone derived⟩

/-- The limit and the verification let the artifact through. -/
structure Servable (primitives : Primitives) (maxPvsBytes : Nat) (bytes : Bytes) : Prop where
  within : ¬(maxPvsBytes > 0 ∧ bytes.length > maxPvsBytes)
  verified : ∃ header, verify primitives bytes = .ok header

structure PairAt (serde : Serde) (files : Files) (bytes : Bytes) (metadata : ArtifactMetadata) :
    Prop where
  artifact : files.read .lkgArtifact = some bytes
  metadata : files.read .lkgMetadata = some (serde.metadataToVec metadata)

section
variable {serde : Serde} {primitives : Primitives} {maxPvsBytes : Nat} {files : Files}

variable {bytes : Bytes} {metadata : ArtifactMetadata}

theorem newWithOptions_served (servable : Servable primitives maxPvsBytes bytes) (version now : Nat)
    (files : Files) :
    ∃ relay, RelayRuntimeState.newWithOptions primitives version bytes maxPvsBytes now files =
        .ok relay ∧
      relay.files = files ∧
      relay.served = some (version, bytes, checksumForBytes primitives bytes) := by
  obtain ⟨header, verified⟩ := servable.verified
  have nonempty : bytes.isEmpty = false := by
    simpa using nonempty_of_verify verified
  unfold RelayRuntimeState.newWithOptions
  simp only [nonempty, Bool.false_eq_true, if_false, inspect_of_verify verified]
  exact ⟨_, rfl, rfl, rfl⟩

theorem PairAt.repaired (pair : PairAt serde files bytes metadata) :
    repairLkg serde files = .ok files () := by
  simp [repairLkg, pair.artifact, pair.metadata]

theorem initState_repaired {original : Files} (repaired : repairLkg serde original = .ok files ())
    (pair : PairAt serde files bytes metadata) (servable : Servable primitives maxPvsBytes bytes)
    (readable : StateReadable serde files) (now : Nat) :
    ∃ relay, initState serde primitives maxPvsBytes now original = .ok relay ∧
      relay.served = some (metadata.version, bytes, checksumForBytes primitives bytes) ∧
      relay.statusLkg serde = some metadata := by
  obtain ⟨after, refreshed, same, _⟩ := refreshState_ok readable (deriveStateFromLkg metadata)
  obtain ⟨relay, built, filesAt, served⟩ :=
    newWithOptions_served servable metadata.version now after
  refine ⟨relay, ?_, served, RelayRuntimeState.statusLkg_eq ?_⟩
  · have loaded : loadLkg serde files = .ok (some (bytes, metadata)) := by
      simp [loadLkg, pair.artifact, pair.metadata, serde.metadataRoundTrip]
    unfold initState
    rw [repaired]
    unfold startRepaired
    simp only [loaded, if_neg servable.within]
    unfold startFrom
    rw [refreshed]
    simp only [deriveStateFromLkg, built]
  · rw [filesAt, same .lkgMetadata (by simp)]
    exact pair.metadata

theorem initState_nothing (primitives : Primitives) (maxPvsBytes : Nat)
    (artifactMissing : files.read .lkgArtifact = none)
    (metadataMissing : files.read .lkgMetadata = none) (readable : StateReadable serde files)
    (now : Nat) :
    ∃ relay, initState serde primitives maxPvsBytes now files = .ok relay ∧
      relay.served = none ∧ relay.inner.version = 0 ∧ relay.maxPvsBytes = maxPvsBytes ∧
      files.SameExcept relay.files [.stateJson, .tmp .stateJson] ∧
      StateReadable serde relay.files := by
  obtain ⟨after, refreshed, same, refreshedReadable⟩ :=
    refreshState_ok readable { currentVersion := 0 }
  have repaired : repairLkg serde files = .ok files () := by
    simp [repairLkg, artifactMissing, metadataMissing]
  have loaded : loadLkg serde files = .ok none := by
    simp [loadLkg, artifactMissing, metadataMissing]
  unfold initState
  rw [repaired]
  simp only
  unfold startRepaired
  rw [loaded]
  simp only
  unfold startFrom
  rw [refreshed]
  exact ⟨_, rfl, rfl, rfl, rfl, same, refreshedReadable⟩

theorem mem_scanArtifacts {version : Nat} :
    version ∈ scanArtifacts files ↔
      parsesBack version = true ∧ (files.read (.historyArtifact version)).isSome = true := by
  unfold scanArtifacts
  rw [List.mem_filterMap]
  constructor
  · intro scanned
    obtain ⟨path, present, parsed⟩ := scanned
    cases path with
    | historyArtifact =>
      simp only [Option.ite_none_right_eq_some, Option.some.injEq] at parsed
      obtain ⟨parses, rfl⟩ := parsed
      exact ⟨parses, AList.lookup_isSome.mpr (AList.mem_keys.mpr present)⟩
    | _ => cases parsed
  · intro written
    obtain ⟨parses, present⟩ := written
    refine ⟨.historyArtifact version, AList.mem_keys.mp (AList.lookup_isSome.mp present), ?_⟩
    simp [parses]

private theorem maxHistoryVersion_only {version : Nat} (parses : parsesBack version = true)
    (artifact : (files.read (.historyArtifact version)).isSome = true)
    (metadata : (files.read (.historyMetadata version)).isSome = true)
    (only : ∀ other, (files.read (.historyArtifact other)).isSome = true → other = version) :
    maxHistoryVersion files = some version := by
  have listed : version ∈ listHistoryVersions files :=
    List.mem_filter.mpr ⟨mem_scanArtifacts.mpr ⟨parses, artifact⟩, metadata⟩
  unfold maxHistoryVersion
  cases greatest : (listHistoryVersions files).max? with
  | none =>
    rw [List.max?_eq_none_iff.mp greatest] at listed
    cases listed
  | some found =>
    have member := List.max?_mem greatest
    have scanned := (List.mem_filter.mp member).1
    rw [only found (mem_scanArtifacts.mp scanned).2]

theorem initState_recovers (artifactFound : (files.read .lkgArtifact).isSome = true)
    (metadataMissing : files.read .lkgMetadata = none) (parses : parsesBack metadata.version = true)
    (historyArtifact : files.read (.historyArtifact metadata.version) = some bytes)
    (historyMetadata : files.read (.historyMetadata metadata.version) =
      some (serde.metadataToVec metadata))
    (only : ∀ other, (files.read (.historyArtifact other)).isSome = true →
      other = metadata.version) (servable : Servable primitives maxPvsBytes bytes)
    (readable : StateReadable serde files) (now : Nat) :
    ∃ relay, initState serde primitives maxPvsBytes now files = .ok relay ∧
      relay.served = some (metadata.version, bytes, checksumForBytes primitives bytes) ∧
      relay.statusLkg serde = some metadata := by
  have latest := maxHistoryVersion_only parses (by simp [historyArtifact])
    (by simp [historyMetadata]) only
  have recovers : recoverLkgFromHistory serde metadata.version files =
      promoteToLkg serde PairPlan.allDone bytes metadata files := by
    simp [recoverLkgFromHistory, historyArtifact, historyMetadata, serde.metadataRoundTrip]
  obtain ⟨value, promoted⟩ : ∃ value, promoteToLkg serde PairPlan.allDone bytes metadata files =
      .ok (promoteToLkg serde PairPlan.allDone bytes metadata files).state value :=
    Result.exists_of_isOk (writePair_isOk PairPlan.allDone _ _ _ _ files)
  have pair : PairAt serde (promoteToLkg serde PairPlan.allDone bytes metadata files).state bytes
      metadata :=
    ⟨writePair_artifact PairPlan.allDone _ _ files .lkg,
      writePair_metadata PairPlan.allDone _ _ files .lkg⟩
  have untouched := writePair_sameExcept PairPlan.allDone .lkgArtifact .lkgMetadata bytes
    (serde.metadataToVec metadata) files .stateJson (by simp)
  obtain ⟨found, foundAt⟩ := Option.isSome_iff_exists.mp artifactFound
  have repaired : repairLkg serde files =
      .ok (promoteToLkg serde PairPlan.allDone bytes metadata files).state () := by
    unfold repairLkg
    rw [foundAt, metadataMissing]
    simp only [latest, recovers]
    rw [promoted]
    rfl
  exact initState_repaired repaired pair servable (readable.of_same untouched) now

end

end Pavis.Relay
