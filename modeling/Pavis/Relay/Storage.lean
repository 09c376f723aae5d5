/-
The relay's files.

The history and the last known good artifact are both a pair of files, the
artifact and its metadata, written one after the other through temporary files.
Directories are not modelled: resolving or creating one is a step that may
fail.
-/

import Mathlib.Algebra.Group.Nat.Defs
import Pavis.Library.FaultyDisk
import Pavis.Pvs.Format

namespace Pavis.Relay

open ByteText FaultyDisk

/-- The file names under the storage root. A version is written with at least
ten digits, so distinct versions have distinct names. -/
inductive StoragePath where
  | lkgArtifact
  | lkgMetadata
  | historyArtifact (version : Nat)
  | historyMetadata (version : Nat)
  | stateJson
  | tmp (target : StoragePath)
  deriving DecidableEq

structure ArtifactMetadata where
  version : Nat
  publishedAt : Nat
  checksum : Text
  size : Nat
  deriving DecidableEq

structure RelayState where
  currentVersion : Nat
  deriving DecidableEq

/-- The JSON codecs of the two records kept on disk. -/
structure Serde where
  metadataToVec : ArtifactMetadata → Bytes
  metadataFromSlice : Bytes → Option ArtifactMetadata
  stateToVec : RelayState → Bytes
  stateFromSlice : Bytes → Option RelayState
  metadataRoundTrip : ∀ metadata, metadataFromSlice (metadataToVec metadata) = some metadata
  stateRoundTrip : ∀ state, stateFromSlice (stateToVec state) = some state

inductive StorageError where
  | directory
  | artifact
  | serialise
  | metadata
  | sync
  | undecodable
  | artifactWithoutMetadata
  | metadataWithoutArtifact
  | historyEntryMissingArtifact (version : Nat)
  | historyEntryMissingMetadata (version : Nat)
  deriving DecidableEq

abbrev Files := Disk StoragePath

structure PairPlan where
  directory : Verdict
  artifact : WritePlan
  serialise : Verdict
  metadata : WritePlan
  sync : Verdict
  deriving DecidableEq

def PairPlan.allDone : PairPlan :=
  { directory := .done
    artifact := WritePlan.allDone
    serialise := .done
    metadata := WritePlan.allDone
    sync := .done }

def writeMetadata (plan : PairPlan) (metadataPath : StoragePath) (metadata : Bytes)
    (files : Files) : Result Files StorageError Unit :=
  (inert plan.serialise .serialise files).andThen fun files _ =>
    (writeAtomic plan.metadata .metadata (.tmp metadataPath) metadataPath metadata files).andThen
      fun files _ => inert plan.sync .sync files

def writePair (plan : PairPlan) (artifactPath metadataPath : StoragePath)
    (artifact metadata : Bytes) (files : Files) : Result Files StorageError Unit :=
  (inert plan.directory .directory files).andThen fun files _ =>
    (writeAtomic plan.artifact .artifact (.tmp artifactPath) artifactPath artifact files).andThen
      fun files _ => writeMetadata plan metadataPath metadata files

def PairPlan.clean (plan : PairPlan) : Bool :=
  plan.directory.isDone && plan.artifact.clean &&
    (plan.serialise.isDone && plan.metadata.clean && plan.sync.isDone)

def PairPlan.artifactStored (plan : PairPlan) : Bool :=
  plan.directory.isDone && plan.artifact.stored

def PairPlan.metadataStored (plan : PairPlan) : Bool :=
  plan.directory.isDone && plan.artifact.clean && (plan.serialise.isDone && plan.metadata.stored)

def PairPlan.avoids (bad : Ending) (plan : PairPlan) : Bool :=
  plan.directory.avoids bad && plan.artifact.avoids bad && plan.serialise.avoids bad &&
    plan.metadata.avoids bad && plan.sync.avoids bad

def PairPlan.returns : PairPlan → Bool := avoids .crashed

def PairPlan.unfailed : PairPlan → Bool := avoids .failed

theorem PairPlan.stored_of_clean {plan : PairPlan} (clean : plan.clean = true) :
    plan.artifactStored = true ∧ plan.metadataStored = true := by
  simp only [PairPlan.clean, Bool.and_eq_true] at clean
  obtain ⟨⟨directory, artifact⟩, ⟨serialise, metadata⟩, _⟩ := clean
  simp [PairPlan.artifactStored, PairPlan.metadataStored, directory, artifact, serialise,
    WritePlan.stored_of_clean artifact, WritePlan.stored_of_clean metadata]

theorem StoragePath.ne_tmp (path : StoragePath) : path ≠ .tmp path := by
  intro same
  have sizes := congrArg sizeOf same
  simp at sizes

theorem writeMetadata_state (plan : PairPlan) (path : StoragePath) (metadata : Bytes)
    (files : Files) :
    (writeMetadata plan path metadata files).state =
      if plan.serialise.isDone then
        (writeAtomic plan.metadata StorageError.metadata (.tmp path) path metadata files).state
      else files := by
  simp [writeMetadata, Result.andThen_state]

theorem writeMetadata_sameExcept (plan : PairPlan) (path : StoragePath) (metadata : Bytes)
    (files : Files) :
    files.SameExcept (writeMetadata plan path metadata files).state [path, .tmp path] := by
  rw [writeMetadata_state]
  split
  · exact writeAtomic_sameExcept plan.metadata _ _ path metadata files
  · exact .refl files _

/-- The two files of a pair do not get in each other's way. -/
structure Apart (artifactPath metadataPath : StoragePath) : Prop where
  targets : artifactPath ≠ metadataPath
  artifact : artifactPath ≠ .tmp metadataPath
  metadata : metadataPath ≠ .tmp artifactPath

theorem Apart.history (version : Nat) :
    Apart (.historyArtifact version) (.historyMetadata version) :=
  ⟨by simp, by simp, by simp⟩

theorem Apart.lkg : Apart .lkgArtifact .lkgMetadata := ⟨by simp, by simp, by simp⟩

section
variable (plan : PairPlan) (artifactPath metadataPath : StoragePath) (artifact metadata : Bytes)
  (files : Files)

theorem writePair_isOk :
    (writePair plan artifactPath metadataPath artifact metadata files).isOk = plan.clean := by
  simp [writePair, writeMetadata, Result.andThen_isOk, writeAtomic_isOk, PairPlan.clean,
    Bool.and_assoc]

theorem writePair_state :
    (writePair plan artifactPath metadataPath artifact metadata files).state =
      let written := (writeAtomic plan.artifact StorageError.artifact (.tmp artifactPath)
        artifactPath artifact files).state
      if plan.directory.isDone then
        if plan.artifact.clean then (writeMetadata plan metadataPath metadata written).state
        else written
      else files := by
  simp [writePair, Result.andThen_state, writeAtomic_isOk]

variable {artifactPath metadataPath} in
theorem writePair_artifact (apart : Apart artifactPath metadataPath) :
    (writePair plan artifactPath metadataPath artifact metadata files).state.read artifactPath =
      if plan.artifactStored then some artifact else files.read artifactPath := by
  rw [writePair_state]
  unfold PairPlan.artifactStored
  cases plan.directory.isDone with
  | false => rfl
  | true =>
    rw [Bool.true_and,
      ← writeAtomic_target plan.artifact StorageError.artifact artifact files artifactPath.ne_tmp]
    cases plan.artifact.clean with
    | false => rfl
    | true =>
      exact writeMetadata_sameExcept plan metadataPath metadata _ artifactPath
        (by simp [apart.targets, apart.artifact])

variable {artifactPath metadataPath} in
theorem writePair_metadata (apart : Apart artifactPath metadataPath) :
    (writePair plan artifactPath metadataPath artifact metadata files).state.read metadataPath =
      if plan.metadataStored then some metadata else files.read metadataPath := by
  have untouched := writeAtomic_sameExcept plan.artifact StorageError.artifact (.tmp artifactPath)
    artifactPath artifact files metadataPath (by simp [apart.targets.symm, apart.metadata])
  rw [writePair_state]
  unfold PairPlan.metadataStored
  cases plan.directory.isDone with
  | false => rfl
  | true =>
    cases plan.artifact.clean with
    | false => exact untouched
    | true =>
      cases serialised : plan.serialise.isDone with
      | false => simpa [writeMetadata_state, serialised] using untouched
      | true =>
        simp [writeMetadata_state, serialised, writeAtomic_target, metadataPath.ne_tmp,
          untouched]

theorem writePair_sameExcept :
    files.SameExcept (writePair plan artifactPath metadataPath artifact metadata files).state
      [artifactPath, .tmp artifactPath, metadataPath, .tmp metadataPath] := by
  refine (inert_sameExcept plan.directory _ _ files).andThen fun files => ?_
  refine ((writeAtomic_sameExcept plan.artifact _ _ artifactPath artifact files).mono
    (by simp)).andThen fun files => ?_
  exact (writeMetadata_sameExcept plan metadataPath metadata files).mono (by simp)

variable {plan} in
theorem writePair_avoids {bad : Ending} (avoids : plan.avoids bad = true) :
    (writePair plan artifactPath metadataPath artifact metadata files).avoids bad = true := by
  simp only [PairPlan.avoids, Bool.and_eq_true] at avoids
  obtain ⟨⟨⟨⟨directory, artifactAvoids⟩, serialise⟩, metadataAvoids⟩, sync⟩ := avoids
  refine Result.andThen_avoids (by simpa [inert] using directory) fun files _ => ?_
  refine Result.andThen_avoids (writeAtomic_avoids artifactAvoids _ _ _ _ _) fun files _ => ?_
  refine Result.andThen_avoids (by simpa [inert] using serialise) fun files _ => ?_
  refine Result.andThen_avoids (writeAtomic_avoids metadataAvoids _ _ _ _ _) fun files _ => ?_
  simpa [inert] using sync

end

section
variable (serde : Serde)

def appendToHistory (plan : PairPlan) (version : Nat) (artifact : Bytes)
    (metadata : ArtifactMetadata) : Files → Result Files StorageError Unit :=
  writePair plan (.historyArtifact version) (.historyMetadata version) artifact
    (serde.metadataToVec metadata)

def promoteToLkg (plan : PairPlan) (artifact : Bytes) (metadata : ArtifactMetadata) :
    Files → Result Files StorageError Unit :=
  writePair plan .lkgArtifact .lkgMetadata artifact (serde.metadataToVec metadata)

/-! ### The last known good artifact -/

def loadLkg (files : Files) : Except StorageError (Option (Bytes × ArtifactMetadata)) :=
  match files.read .lkgArtifact, files.read .lkgMetadata with
  | none, none => .ok none
  | some bytes, some metaBytes =>
    match serde.metadataFromSlice metaBytes with
    | some metadata => .ok (some (bytes, metadata))
    | none => .error .undecodable
  | some _, none => .error .artifactWithoutMetadata
  | none, some _ => .error .metadataWithoutArtifact

def loadLkgMetadata (files : Files) : Except StorageError (Option ArtifactMetadata) :=
  match files.read .lkgMetadata with
  | none => .ok none
  | some metaBytes =>
    match serde.metadataFromSlice metaBytes with
    | some metadata => .ok (some metadata)
    | none => .error .undecodable

/-- Directory entries with more than ten digits are not read back as
versions. -/
def parsesBack (version : Nat) : Bool := decide (version < 10 ^ 10)

def scanArtifacts (files : Files) : List Nat :=
  files.keys.filterMap fun path =>
    match path with
    | .historyArtifact version => if parsesBack version then some version else none
    | _ => none

def listHistoryVersions (files : Files) : List Nat :=
  (scanArtifacts files).filter fun version => (files.read (.historyMetadata version)).isSome

def maxHistoryVersion (files : Files) : Option Nat := (listHistoryVersions files).max?

def recoverLkgFromHistory (version : Nat) (files : Files) : Result Files StorageError Unit :=
  match files.read (.historyArtifact version) with
  | none => .error files (.historyEntryMissingArtifact version)
  | some bytes =>
    match files.read (.historyMetadata version) with
    | none => .error files (.historyEntryMissingMetadata version)
    | some metaBytes =>
      match serde.metadataFromSlice metaBytes with
      | none => .error files .undecodable
      | some metadata => promoteToLkg serde PairPlan.allDone bytes metadata files

/-- Startup runs without faults: a failing recovery is one whose input is not
there. -/
def repairLkg (files : Files) : Result Files StorageError Unit :=
  match files.read .lkgArtifact, files.read .lkgMetadata with
  | none, none => .ok files ()
  | none, some metaBytes =>
    match serde.metadataFromSlice metaBytes with
    | none => .error files .undecodable
    | some metadata => recoverLkgFromHistory serde metadata.version files
  | some _, none =>
    match maxHistoryVersion files with
    | none => .ok (files.remove .lkgArtifact) ()
    | some version =>
      match recoverLkgFromHistory serde version files with
      | .ok recovered _ => .ok recovered ()
      | .error left _ => .ok (left.remove .lkgArtifact) ()
      | .crashed left => .crashed left
  | some _, some _ => .ok files ()

structure StatePlan where
  resolve : Verdict
  serialise : Verdict
  file : WritePlan
  sync : Verdict
  deriving DecidableEq

def StatePlan.allDone : StatePlan :=
  { resolve := .done, serialise := .done, file := WritePlan.allDone, sync := .done }

def saveState (plan : StatePlan) (state : RelayState) (files : Files) :
    Result Files StorageError Unit :=
  (inert plan.resolve .directory files).andThen fun files _ =>
    (inert plan.serialise .serialise files).andThen fun files _ =>
      (writeAtomic plan.file .artifact (.tmp .stateJson) .stateJson (serde.stateToVec state)
        files).andThen fun files _ => inert plan.sync .sync files

def loadState (files : Files) : Except StorageError (Option RelayState) :=
  match files.read .stateJson with
  | none => .ok none
  | some bytes =>
    match serde.stateFromSlice bytes with
    | some state => .ok (some state)
    | none => .error .undecodable

end

def deriveStateFromLkg (metadata : ArtifactMetadata) : RelayState :=
  { currentVersion := metadata.version }

theorem saveState_state (serde : Serde) (plan : StatePlan) (state : RelayState) (files : Files) :
    (saveState serde plan state files).state =
      if plan.resolve.isDone && plan.serialise.isDone then
        (writeAtomic plan.file StorageError.artifact (.tmp .stateJson) .stateJson
          (serde.stateToVec state) files).state
      else files := by
  unfold saveState
  cases resolved : plan.resolve.isDone <;> simp [Result.andThen_state, resolved]

theorem saveState_sameExcept (serde : Serde) (plan : StatePlan) (state : RelayState)
    (files : Files) :
    files.SameExcept (saveState serde plan state files).state [.stateJson, .tmp .stateJson] := by
  rw [saveState_state]
  split
  · exact writeAtomic_sameExcept plan.file StorageError.artifact (.tmp .stateJson) .stateJson
      (serde.stateToVec state) files
  · exact .refl files _

section
variable {α : Type} [DecidableEq α]

def encodeKnown (known : List α) (text encode : α → Bytes) (value : α) : Bytes :=
  if value ∈ known then text value else encode value

def decodeKnown (known : List α) (text : α → Bytes) (decode : Bytes → Option α)
    (bytes : Bytes) : Option α :=
  (known.find? fun value => text value == bytes).or (decode bytes)

theorem decodeKnown_encodeKnown {known : List α} {text encode : α → Bytes}
    {decode : Bytes → Option α}
    (distinct : ∀ first ∈ known, ∀ second ∈ known, text first = text second → first = second)
    (apart : ∀ value ∈ known, ∀ other, text value ≠ encode other)
    (decodes : ∀ value, decode (encode value) = some value) (value : α) :
    decodeKnown known text decode (encodeKnown known text encode value) = some value := by
  unfold decodeKnown encodeKnown
  by_cases isKnown : value ∈ known
  · rw [if_pos isKnown]
    cases found : known.find? fun other => text other == text value with
    | none => exact absurd (beq_self_eq_true _) (List.find?_eq_none.mp found value isKnown)
    | some other =>
      have sameText : text other = text value := by simpa using List.find?_some found
      rw [distinct other (List.mem_of_find?_eq_some found) value isKnown sameText]
      rfl
  · rw [if_neg isKnown, List.find?_eq_none.mpr, Option.none_or, decodes value]
    intro other member
    simpa using apart other member value

end

def unary (value : Nat) (rest : Bytes) : Bytes := List.replicate value 1 ++ 0 :: rest

def takeUnary : Bytes → Option (Nat × Bytes)
  | [] => none
  | byte :: rest =>
    if byte = 0 then some (0, rest)
    else (takeUnary rest).map fun parsed => (parsed.1 + 1, parsed.2)

theorem takeUnary_unary (value : Nat) (rest : Bytes) :
    takeUnary (unary value rest) = some (value, rest) := by
  induction value with
  | zero => rfl
  | succ value ih =>
    have unfolded : unary (value + 1) rest = 1 :: unary value rest := rfl
    rw [unfolded]
    unfold takeUnary
    rw [ih]
    rfl

theorem unary_ne_record (value : Nat) (rest text : Bytes) : 123 :: text ≠ unary value rest := by
  cases value with
  | zero => simp [unary]
  | succ => simp [unary, List.replicate_succ]

def prettyMetadata (metadata : ArtifactMetadata) : Text :=
  123 :: literal "\n  \"version\": " ++ literal (toString metadata.version) ++
    literal ",\n  \"published_at\": \"1970-01-01T00:00:00+00:00\",\n  \"checksum\": \"" ++
    metadata.checksum ++ literal "\",\n  \"size\": " ++ literal (toString metadata.size) ++
    [10, 125]

def prettyState (state : RelayState) : Text :=
  123 :: literal "\n  \"current_version\": " ++ literal (toString state.currentVersion) ++ [10, 125]

open Pavis.Pvs in
def knownMetadata : List ArtifactMetadata :=
  [{ version := 1, publishedAt := 0, checksum := checksumForBytes tabulated smallArtifact,
     size := 65 },
    { version := 2, publishedAt := 0, checksum := checksumForBytes tabulated smallArtifact,
      size := 65 },
    { version := 2, publishedAt := 0, checksum := checksumForBytes tabulated otherArtifact,
      size := 65 }]

def knownStates : List RelayState := [⟨0⟩, ⟨1⟩, ⟨2⟩]

/-- The JSON texts of the records above; the assumptions on the codecs can be
met. -/
def smallSerde : Serde :=
  { metadataToVec := encodeKnown knownMetadata prettyMetadata fun metadata =>
      unary metadata.version (unary metadata.publishedAt (unary metadata.size metadata.checksum))
    metadataFromSlice := decodeKnown knownMetadata prettyMetadata fun bytes => do
      let (version, bytes) ← takeUnary bytes
      let (publishedAt, bytes) ← takeUnary bytes
      let (size, checksum) ← takeUnary bytes
      return { version := version, publishedAt := publishedAt, checksum := checksum, size := size }
    stateToVec := encodeKnown knownStates prettyState fun state => unary state.currentVersion []
    stateFromSlice := decodeKnown knownStates prettyState fun bytes =>
      (takeUnary bytes).map fun parsed => ⟨parsed.1⟩
    metadataRoundTrip := by
      refine decodeKnown_encodeKnown (by decide +kernel) (fun _ _ _ => unary_ne_record _ _ _) ?_
      intro metadata
      simp [takeUnary_unary]
    stateRoundTrip := by
      refine decodeKnown_encodeKnown (by decide +kernel) (fun _ _ _ => unary_ne_record _ _ _) ?_
      intro state
      simp [takeUnary_unary] }

end Pavis.Relay
