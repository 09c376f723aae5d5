/-
What a failed publish leaves behind.

The files after the call are given for every combination of failing steps, and from
them the exact condition under which a rejected publish has changed nothing.
-/

import Pavis.Relay.Publish

namespace Pavis.Relay

open ByteText FaultyDisk Pavis.Pvs

/-- The last known good pair and the history entries. -/
def StoragePath.durable : StoragePath → Bool
  | .lkgArtifact => true
  | .lkgMetadata => true
  | .historyArtifact _ => true
  | .historyMetadata _ => true
  | .stateJson => false
  | .tmp _ => false

theorem StoragePath.durable_ne_tmp {path : StoragePath} (durable : path.durable = true)
    (target : StoragePath) : path ≠ .tmp target := by
  intro same
  subst same
  cases durable

theorem StoragePath.durable_ne_stateJson {path : StoragePath} (durable : path.durable = true) :
    path ≠ .stateJson := by
  intro same
  subst same
  cases durable

def Files.SameDurable (before after : Files) : Prop :=
  ∀ path, path.durable = true → after.read path = before.read path

def PublishPlan.returns (plan : PublishPlan) : Bool :=
  plan.history.returns && plan.lkg.returns && plan.removeArtifact.returns &&
    plan.removeMetadata.returns && plan.state.resolve.returns && plan.state.serialise.returns &&
    plan.state.file.returns && plan.state.sync.returns

section
variable {serde : Serde}

def removed (verdict : Verdict) (path : StoragePath) (files : Files) : Files :=
  if verdict.isDone then files.remove path else files

private theorem removeFile_ignored {verdict : Verdict} (returns : verdict.returns = true)
    (reason : StorageError) (path : StoragePath) (files : Files) :
    (removeFile verdict reason path files).ignoreError = .ok (removed verdict path files) () := by
  cases verdict with
  | crashed => cases returns
  | _ => rfl

private theorem removed_same (verdict : Verdict) (path : StoragePath) (files : Files) :
    (removed verdict path files).read path =
      if verdict.isDone then none else files.read path := by
  unfold removed
  split
  · exact Disk.read_remove_same files path
  · rfl

variable {path : StoragePath} {plan : PublishPlan}

theorem removed_other (verdict : Verdict) {other : StoragePath} (different : other ≠ path)
    (files : Files) : (removed verdict path files).read other = files.read other := by
  unfold removed
  split
  · exact Disk.read_remove_other files different
  · rfl

private theorem rollback_ok (artifact : plan.removeArtifact.returns = true)
    (metadata : plan.removeMetadata.returns = true) (version : Nat) (files : Files) :
    rollback plan version files =
      .ok (removed plan.removeMetadata (.historyMetadata version)
        (removed plan.removeArtifact (.historyArtifact version) files)) () := by
  unfold rollback
  rw [removeFile_ignored artifact, Result.andThen_ok, removeFile_ignored metadata]

theorem saveState_sameDurable (serde : Serde) (plan : StatePlan) (state : RelayState)
    (files : Files) : files.SameDurable (saveState serde plan state files).state := by
  intro path durable
  apply saveState_sameExcept serde plan state files path
  simp [StoragePath.durable_ne_stateJson durable, StoragePath.durable_ne_tmp durable]

section
variable (serde : Serde) (bytes : Bytes) (metadata : ArtifactMetadata) (files : Files)

private theorem persistFiles_appendFails (returns : plan.history.returns = true)
    (fails : plan.history.clean = false) :
    ∃ reason, persistFiles serde plan bytes metadata files =
      .error (appendToHistory serde plan.history metadata.version bytes metadata files).state
        reason := by
  have stopped : (appendToHistory serde plan.history metadata.version bytes metadata files).isOk =
      false := (writePair_isOk plan.history _ _ _ _ _).trans fails
  obtain ⟨reason, appended⟩ := Result.error_of_avoids
    (writePair_avoids _ _ _ _ _ returns) stopped
  refine ⟨reason, ?_⟩
  unfold persistFiles
  unfold appendToHistory
  rw [appended]
  rfl

variable {serde bytes metadata files} in
theorem persistFiles_appended (clean : plan.history.clean = true) :
    persistFiles serde plan bytes metadata files =
      (promoteOrRollback serde plan bytes metadata
        (appendToHistory serde plan.history metadata.version bytes metadata files).state).andThen
        fun files _ => Result.ignoreError
          (saveState serde plan.state { currentVersion := metadata.version } files) := by
  have succeeds : (appendToHistory serde plan.history metadata.version bytes metadata files).isOk =
      true := (writePair_isOk plan.history _ _ _ _ _).trans clean
  obtain ⟨value, appended⟩ := Result.exists_of_isOk succeeds
  unfold persistFiles
  rw [appended]
  rfl

private theorem promoteOrRollback_fails (returns : plan.lkg.returns = true)
    (artifact : plan.removeArtifact.returns = true) (removal : plan.removeMetadata.returns = true)
    (fails : plan.lkg.clean = false) :
    ∃ reason, promoteOrRollback serde plan bytes metadata files =
      .error (removed plan.removeMetadata (.historyMetadata metadata.version)
        (removed plan.removeArtifact (.historyArtifact metadata.version)
          (promoteToLkg serde plan.lkg bytes metadata files).state)) reason := by
  have stopped : (promoteToLkg serde plan.lkg bytes metadata files).isOk = false :=
    (writePair_isOk plan.lkg _ _ _ _ _).trans fails
  obtain ⟨reason, promoted⟩ := Result.error_of_avoids
    (writePair_avoids _ _ _ _ _ returns) stopped
  refine ⟨reason, ?_⟩
  unfold promoteOrRollback
  unfold promoteToLkg
  rw [promoted]
  simp only [rollback_ok artifact removal, Result.andThen_ok, Result.state_error]

variable {serde bytes metadata files} in
theorem promoteOrRollback_ok (clean : plan.lkg.clean = true) :
    promoteOrRollback serde plan bytes metadata files =
      .ok (promoteToLkg serde plan.lkg bytes metadata files).state () := by
  have succeeds : (promoteToLkg serde plan.lkg bytes metadata files).isOk = true :=
    (writePair_isOk plan.lkg _ _ _ _ _).trans clean
  obtain ⟨value, promoted⟩ := Result.exists_of_isOk succeeds
  unfold promoteOrRollback
  rw [promoted]
  rfl

/-- A failed append is harmless when what it had renamed was already there. -/
structure AppendHarmless (plan : PublishPlan) (bytes : Bytes) (metadata : ArtifactMetadata)
    (files : Files) : Prop where
  artifact : plan.history.artifactStored = true →
    files.read (.historyArtifact metadata.version) = some bytes
  metadata : plan.history.metadataStored = true →
    files.read (.historyMetadata metadata.version) = some (serde.metadataToVec metadata)

/-- A failed promotion is harmless when both removals put the history entry
back to what it was and no last known good file had been replaced. -/
structure PromotionHarmless (plan : PublishPlan) (bytes : Bytes) (metadata : ArtifactMetadata)
    (files : Files) : Prop where
  historyArtifact : files.read (.historyArtifact metadata.version) =
    if plan.removeArtifact.isDone then none else some bytes
  historyMetadata : files.read (.historyMetadata metadata.version) =
    if plan.removeMetadata.isDone then none else some (serde.metadataToVec metadata)
  lkgArtifact : plan.lkg.artifactStored = true → files.read .lkgArtifact = some bytes
  lkgMetadata : plan.lkg.metadataStored = true →
    files.read .lkgMetadata = some (serde.metadataToVec metadata)

/-- Everything the publish writes was there before. -/
structure AlreadyInPlace (bytes : Bytes) (metadata : ArtifactMetadata) (files : Files) : Prop where
  historyArtifact : files.read (.historyArtifact metadata.version) = some bytes
  historyMetadata : files.read (.historyMetadata metadata.version) =
    some (serde.metadataToVec metadata)
  lkgArtifact : files.read .lkgArtifact = some bytes
  lkgMetadata : files.read .lkgMetadata = some (serde.metadataToVec metadata)

private theorem overwritten_iff {written : Bool} {after before : Option Bytes} {contents : Bytes}
    (afterAt : after = if written then some contents else before) :
    after = before ↔ (written = true → before = some contents) := by
  cases written with
  | false => simpa using afterAt
  | true =>
    simp only [if_true] at afterAt
    rw [afterAt]
    exact ⟨fun same _ => same.symm, fun same => (same rfl).symm⟩

theorem writePair_durable (plan : PairPlan) (artifactPath metadataPath : StoragePath)
    (artifact metadata : Bytes) (files : Files) (path : StoragePath)
    (durable : path.durable = true) (notArtifact : path ≠ artifactPath)
    (notMetadata : path ≠ metadataPath) :
    (writePair plan artifactPath metadataPath artifact metadata files).state.read path =
      files.read path := by
  apply writePair_sameExcept plan artifactPath metadataPath artifact metadata files path
  simp [notArtifact, notMetadata, StoragePath.durable_ne_tmp durable]

variable {serde bytes metadata files} in
private theorem append_sameDurable_iff (plan : PublishPlan) :
    files.SameDurable
        (appendToHistory serde plan.history metadata.version bytes metadata files).state ↔
      AppendHarmless serde plan bytes metadata files := by
  have artifactAt := writePair_artifact plan.history bytes (serde.metadataToVec metadata)
    files (.history metadata.version)
  have metadataAt := writePair_metadata plan.history bytes (serde.metadataToVec metadata)
    files (.history metadata.version)
  constructor
  · intro same
    exact ⟨(overwritten_iff artifactAt).mp (same _ rfl),
      (overwritten_iff metadataAt).mp (same _ rfl)⟩
  · intro harmless path durable
    by_cases isArtifact : path = .historyArtifact metadata.version
    · subst isArtifact
      exact (overwritten_iff artifactAt).mpr harmless.artifact
    · by_cases isMetadata : path = .historyMetadata metadata.version
      · subst isMetadata
        exact (overwritten_iff metadataAt).mpr harmless.metadata
      · exact writePair_durable plan.history _ _ _ _ files path durable isArtifact isMetadata

private theorem Files.SameDurable.of_four (version : Nat) {before after : Files}
    (historyArtifact : after.read (.historyArtifact version) =
      before.read (.historyArtifact version))
    (historyMetadata : after.read (.historyMetadata version) =
      before.read (.historyMetadata version))
    (lkgArtifact : after.read .lkgArtifact = before.read .lkgArtifact)
    (lkgMetadata : after.read .lkgMetadata = before.read .lkgMetadata)
    (other : ∀ path : StoragePath, path.durable = true → path ≠ .historyArtifact version →
      path ≠ .historyMetadata version → path ≠ .lkgArtifact → path ≠ .lkgMetadata →
      after.read path = before.read path) : before.SameDurable after := by
  intro path durable
  by_cases isArtifact : path = .historyArtifact version
  · rw [isArtifact, historyArtifact]
  by_cases isMetadata : path = .historyMetadata version
  · rw [isMetadata, historyMetadata]
  by_cases isLkgArtifact : path = .lkgArtifact
  · rw [isLkgArtifact, lkgArtifact]
  by_cases isLkgMetadata : path = .lkgMetadata
  · rw [isLkgMetadata, lkgMetadata]
  exact other path durable isArtifact isMetadata isLkgArtifact isLkgMetadata

/-! ### The files after the append and the promotion -/

def promotedPair (serde : Serde) (plan : PublishPlan) (bytes : Bytes)
    (metadata : ArtifactMetadata) (files : Files) : Files :=
  (promoteToLkg serde plan.lkg bytes metadata
    (appendToHistory serde plan.history metadata.version bytes metadata files).state).state

theorem promotedPair_history (clean : plan.history.clean = true) :
    (promotedPair serde plan bytes metadata files).read (.historyArtifact metadata.version) =
        some bytes ∧
      (promotedPair serde plan bytes metadata files).read (.historyMetadata metadata.version) =
        some (serde.metadataToVec metadata) := by
  obtain ⟨artifactStored, metadataStored⟩ := PairPlan.stored_of_clean clean
  have appendedArtifact := writePair_artifact plan.history bytes (serde.metadataToVec metadata)
    files (.history metadata.version)
  have appendedMetadata := writePair_metadata plan.history bytes (serde.metadataToVec metadata)
    files (.history metadata.version)
  rw [if_pos artifactStored] at appendedArtifact
  rw [if_pos metadataStored] at appendedMetadata
  have promoted (path : StoragePath) (durable : path.durable = true) :=
    writePair_durable plan.lkg .lkgArtifact .lkgMetadata bytes (serde.metadataToVec metadata)
      (appendToHistory serde plan.history metadata.version bytes metadata files).state path durable
  exact ⟨(promoted _ rfl (by simp) (by simp)).trans appendedArtifact,
    (promoted _ rfl (by simp) (by simp)).trans appendedMetadata⟩

theorem promotedPair_lkg (plan : PublishPlan) :
    (promotedPair serde plan bytes metadata files).read .lkgArtifact =
        (if plan.lkg.artifactStored then some bytes else files.read .lkgArtifact) ∧
      (promotedPair serde plan bytes metadata files).read .lkgMetadata =
        if plan.lkg.metadataStored then some (serde.metadataToVec metadata)
        else files.read .lkgMetadata := by
  unfold promotedPair promoteToLkg
  rw [writePair_artifact plan.lkg _ _ _ .lkg, writePair_metadata plan.lkg _ _ _ .lkg]
  unfold appendToHistory
  rw [writePair_durable plan.history _ _ _ _ files .lkgArtifact rfl (by simp) (by simp),
    writePair_durable plan.history _ _ _ _ files .lkgMetadata rfl (by simp) (by simp)]
  exact ⟨rfl, rfl⟩

variable {serde bytes metadata files} in
theorem promotedPair_other (durable : path.durable = true)
    (notArtifact : path ≠ .historyArtifact metadata.version)
    (notMetadata : path ≠ .historyMetadata metadata.version) (notLkgArtifact : path ≠ .lkgArtifact)
    (notLkgMetadata : path ≠ .lkgMetadata) :
    (promotedPair serde plan bytes metadata files).read path = files.read path := by
  unfold promotedPair promoteToLkg appendToHistory
  rw [writePair_durable plan.lkg _ _ _ _ _ path durable notLkgArtifact notLkgMetadata,
    writePair_durable plan.history _ _ _ _ _ path durable notArtifact notMetadata]

def rolledBack (serde : Serde) (plan : PublishPlan) (bytes : Bytes) (metadata : ArtifactMetadata)
    (files : Files) : Files :=
  removed plan.removeMetadata (.historyMetadata metadata.version)
    (removed plan.removeArtifact (.historyArtifact metadata.version)
      (promoteToLkg serde plan.lkg bytes metadata
        (appendToHistory serde plan.history metadata.version bytes metadata files).state).state)

private theorem rolledBack_history (clean : plan.history.clean = true) :
    (rolledBack serde plan bytes metadata files).read (.historyArtifact metadata.version) =
        (if plan.removeArtifact.isDone then none else some bytes) ∧
      (rolledBack serde plan bytes metadata files).read (.historyMetadata metadata.version) =
        if plan.removeMetadata.isDone then none else some (serde.metadataToVec metadata) := by
  obtain ⟨artifactAt, metadataAt⟩ := promotedPair_history serde bytes metadata files clean
  unfold promotedPair at artifactAt metadataAt
  unfold rolledBack
  constructor
  · rw [removed_other _ (by simp), removed_same, artifactAt]
  · rw [removed_same, removed_other _ (by simp), metadataAt]

variable {serde bytes metadata files} in
theorem rolledBack_kept (notArtifact : path ≠ .historyArtifact metadata.version)
    (notMetadata : path ≠ .historyMetadata metadata.version) :
    (rolledBack serde plan bytes metadata files).read path =
      (promotedPair serde plan bytes metadata files).read path := by
  unfold rolledBack
  rw [removed_other _ notMetadata, removed_other _ notArtifact]
  rfl

variable {serde bytes metadata files} in
private theorem rolledBack_sameDurable_iff (clean : plan.history.clean = true) :
    files.SameDurable (rolledBack serde plan bytes metadata files) ↔
      PromotionHarmless serde plan bytes metadata files := by
  obtain ⟨artifactAt, metadataAt⟩ := rolledBack_history serde bytes metadata files clean
  obtain ⟨lkgArtifactAt, lkgMetadataAt⟩ := promotedPair_lkg serde bytes metadata files plan
  rw [← rolledBack_kept (by simp) (by simp)] at lkgArtifactAt lkgMetadataAt
  constructor
  · intro same
    exact
      { historyArtifact := (same _ rfl).symm.trans artifactAt
        historyMetadata := (same _ rfl).symm.trans metadataAt
        lkgArtifact := (overwritten_iff lkgArtifactAt).mp (same _ rfl)
        lkgMetadata := (overwritten_iff lkgMetadataAt).mp (same _ rfl) }
  · intro harmless
    apply Files.SameDurable.of_four metadata.version
    · exact artifactAt.trans harmless.historyArtifact.symm
    · exact metadataAt.trans harmless.historyMetadata.symm
    · exact (overwritten_iff lkgArtifactAt).mpr harmless.lkgArtifact
    · exact (overwritten_iff lkgMetadataAt).mpr harmless.lkgMetadata
    · intro path durable notArtifact notMetadata notLkgArtifact notLkgMetadata
      exact (rolledBack_kept notArtifact notMetadata).trans
        (promotedPair_other durable notArtifact notMetadata notLkgArtifact notLkgMetadata)

theorem saveState_avoids {plan : StatePlan} {bad : Ending}
    (resolve : plan.resolve.avoids bad = true) (serialise : plan.serialise.avoids bad = true)
    (file : plan.file.avoids bad = true) (sync : plan.sync.avoids bad = true)
    (state : RelayState) (files : Files) :
    (saveState serde plan state files).avoids bad = true := by
  refine Result.andThen_avoids (by simpa [inert] using resolve) fun files _ => ?_
  refine Result.andThen_avoids (by simpa [inert] using serialise) fun files _ => ?_
  refine Result.andThen_avoids (writeAtomic_avoids file _ _ _ _ _) fun files _ => ?_
  simpa [inert] using sync

private theorem ignoreError_of_returned {result : Result Files StorageError Unit}
    (returned : result.avoids .crashed = true) : result.ignoreError = .ok result.state () := by
  cases result with
  | crashed => cases returned
  | _ => rfl

def promotedFiles (serde : Serde) (plan : PublishPlan) (bytes : Bytes)
    (metadata : ArtifactMetadata) (files : Files) : Files :=
  (saveState serde plan.state { currentVersion := metadata.version }
    (promoteToLkg serde plan.lkg bytes metadata
      (appendToHistory serde plan.history metadata.version bytes metadata files).state).state).state

theorem promotedFiles_kept (plan : PublishPlan) :
    (promotedPair serde plan bytes metadata files).SameDurable
      (promotedFiles serde plan bytes metadata files) :=
  saveState_sameDurable serde plan.state { currentVersion := metadata.version } _

theorem promotedFiles_inPlace (historyClean : plan.history.clean = true)
    (lkgClean : plan.lkg.clean = true) :
    AlreadyInPlace serde bytes metadata (promotedFiles serde plan bytes metadata files) := by
  have kept := promotedFiles_kept serde bytes metadata files plan
  obtain ⟨artifactAt, metadataAt⟩ := promotedPair_history serde bytes metadata files historyClean
  obtain ⟨lkgArtifactAt, lkgMetadataAt⟩ := promotedPair_lkg serde bytes metadata files plan
  obtain ⟨artifactStored, metadataStored⟩ := PairPlan.stored_of_clean lkgClean
  rw [if_pos artifactStored] at lkgArtifactAt
  rw [if_pos metadataStored] at lkgMetadataAt
  exact
    { historyArtifact := (kept _ rfl).trans artifactAt
      historyMetadata := (kept _ rfl).trans metadataAt
      lkgArtifact := (kept _ rfl).trans lkgArtifactAt
      lkgMetadata := (kept _ rfl).trans lkgMetadataAt }

theorem promotedFiles_sameDurable_iff (historyClean : plan.history.clean = true)
    (lkgClean : plan.lkg.clean = true) :
    files.SameDurable (promotedFiles serde plan bytes metadata files) ↔
      AlreadyInPlace serde bytes metadata files := by
  have inPlace := promotedFiles_inPlace serde bytes metadata files historyClean lkgClean
  constructor
  · intro same
    exact
      { historyArtifact := (same _ rfl).symm.trans inPlace.historyArtifact
        historyMetadata := (same _ rfl).symm.trans inPlace.historyMetadata
        lkgArtifact := (same _ rfl).symm.trans inPlace.lkgArtifact
        lkgMetadata := (same _ rfl).symm.trans inPlace.lkgMetadata }
  · intro before
    apply Files.SameDurable.of_four metadata.version
    · exact inPlace.historyArtifact.trans before.historyArtifact.symm
    · exact inPlace.historyMetadata.trans before.historyMetadata.symm
    · exact inPlace.lkgArtifact.trans before.lkgArtifact.symm
    · exact inPlace.lkgMetadata.trans before.lkgMetadata.symm
    · intro path durable notArtifact notMetadata notLkgArtifact notLkgMetadata
      exact (promotedFiles_kept serde bytes metadata files plan path durable).trans
        (promotedPair_other durable notArtifact notMetadata notLkgArtifact notLkgMetadata)

private theorem persistFiles_promotionFails (returns : plan.returns = true)
    (clean : plan.history.clean = true) (unclean : plan.lkg.clean = false) :
    ∃ reason, persistFiles serde plan bytes metadata files =
      .error (rolledBack serde plan bytes metadata files) reason := by
  simp only [PublishPlan.returns, Bool.and_eq_true] at returns
  obtain ⟨⟨⟨⟨⟨⟨⟨_, lkg⟩, removeArtifact⟩, removeMetadata⟩, _⟩, _⟩, _⟩, _⟩ := returns
  obtain ⟨reason, failed⟩ := promoteOrRollback_fails serde bytes metadata
    (appendToHistory serde plan.history metadata.version bytes metadata files).state lkg
    removeArtifact removeMetadata unclean
  refine ⟨reason, ?_⟩
  rw [persistFiles_appended clean, failed]
  rfl

variable {serde bytes metadata files} in
private theorem persistFiles_succeeds (returns : plan.returns = true)
    (historyClean : plan.history.clean = true) (lkgClean : plan.lkg.clean = true) :
    persistFiles serde plan bytes metadata files =
      .ok (promotedFiles serde plan bytes metadata files) () := by
  simp only [PublishPlan.returns, Bool.and_eq_true] at returns
  obtain ⟨⟨⟨⟨⟨⟨⟨_, _⟩, _⟩, _⟩, resolve⟩, serialise⟩, file⟩, sync⟩ := returns
  rw [persistFiles_appended historyClean, promoteOrRollback_ok lkgClean, Result.andThen_ok,
    ignoreError_of_returned (saveState_avoids serde resolve serialise file sync _ _)]
  rfl

end

/-! ### The relay around the files -/

structure Unchanged (before after : RelayRuntimeState) : Prop where
  inner : after.inner = before.inner
  history : after.history = before.history
  files : before.files.SameDurable after.files

def Accepts (primitives : Primitives) (relay : RelayRuntimeState) (bytes : Bytes) : Prop :=
  relay.enforceLimits bytes.length = .ok () ∧ ∃ header, verify primitives bytes = .ok header

/-- No durable write of a failing publish outlives it. -/
structure Harmless (serde : Serde) (primitives : Primitives) (plan : PublishPlan) (bytes : Bytes)
    (now : Nat) (relay : RelayRuntimeState) : Prop where
  append : Accepts primitives relay bytes → plan.history.clean = false →
    AppendHarmless serde plan bytes (relay.metadataFor primitives bytes now) relay.files
  promotion : Accepts primitives relay bytes → plan.history.clean = true →
    plan.lkg.clean = false →
    PromotionHarmless serde plan bytes (relay.metadataFor primitives bytes now) relay.files
  wraps : Accepts primitives relay bytes → plan.history.clean = true → plan.lkg.clean = true →
    nextVersion relay.inner.version ≤ relay.inner.version →
    AlreadyInPlace serde bytes (relay.metadataFor primitives bytes now) relay.files

/-- Every way `persist` can end when the process survives it. -/
inductive Persisted (serde : Serde) (primitives : Primitives) (plan : PublishPlan) (bytes : Bytes)
    (now : Nat) (relay : RelayRuntimeState) :
    Result RelayRuntimeState RelayError (RelayMeta × ArtifactMetadata) → Prop where
  | refused (reason : RelayError) (refuses : ¬Accepts primitives relay bytes) :
      Persisted serde primitives plan bytes now relay (.error relay reason)
  | appendFailed (files : Files) (reason : RelayError) (accepts : Accepts primitives relay bytes)
      (unclean : plan.history.clean = false)
      (same : relay.files.SameDurable files ↔
        AppendHarmless serde plan bytes (relay.metadataFor primitives bytes now) relay.files) :
      Persisted serde primitives plan bytes now relay (.error { relay with files := files } reason)
  | promotionFailed (files : Files) (reason : RelayError)
      (accepts : Accepts primitives relay bytes) (clean : plan.history.clean = true)
      (unclean : plan.lkg.clean = false)
      (same : relay.files.SameDurable files ↔
        PromotionHarmless serde plan bytes (relay.metadataFor primitives bytes now) relay.files) :
      Persisted serde primitives plan bytes now relay (.error { relay with files := files } reason)
  | stored (header : PvsHeader) (accepts : Accepts primitives relay bytes)
      (historyClean : plan.history.clean = true) (lkgClean : plan.lkg.clean = true)
      (verified : verify primitives bytes = .ok header) :
      Persisted serde primitives plan bytes now relay
        (.ok
          { relay with
            files := promotedFiles serde plan bytes (relay.metadataFor primitives bytes now)
              relay.files }
          (RelayMeta.fromHeader header, relay.metadataFor primitives bytes now))

variable {primitives : Primitives} {relay : RelayRuntimeState}

theorem persist_refused (serde : Serde) (refuses : ¬Accepts primitives relay bytes)
    (plan : PublishPlan) (now : Nat) :
    ∃ reason, relay.persist serde primitives plan bytes now = .error relay reason := by
  unfold RelayRuntimeState.persist
  cases limited : relay.enforceLimits bytes.length with
  | error reason => exact ⟨reason, rfl⟩
  | ok =>
    cases verified : verify primitives bytes with
    | error reason => exact ⟨.config reason, rfl⟩
    | ok header => exact absurd ⟨limited, header, verified⟩ refuses

theorem persist_accepted (serde : Serde) {header : PvsHeader}
    (within : relay.enforceLimits bytes.length = .ok ())
    (verified : verify primitives bytes = .ok header) (plan : PublishPlan) (now : Nat) :
    relay.persist serde primitives plan bytes now =
      relay.withFiles
        (persistFiles serde plan bytes (relay.metadataFor primitives bytes now) relay.files)
        (RelayMeta.fromHeader header, relay.metadataFor primitives bytes now) := by
  unfold RelayRuntimeState.persist
  rw [within, verified]

theorem persist_persisted (serde : Serde) (primitives : Primitives) (returns : plan.returns = true)
    (bytes : Bytes) (now : Nat) (relay : RelayRuntimeState) :
    Persisted serde primitives plan bytes now relay
      (relay.persist serde primitives plan bytes now) := by
  have historyReturns : plan.history.returns = true := by
    simp only [PublishPlan.returns, Bool.and_eq_true] at returns
    exact returns.1.1.1.1.1.1.1
  by_cases accepts : Accepts primitives relay bytes
  · obtain ⟨within, header, verified⟩ := id accepts
    rw [persist_accepted serde within verified]
    cases historyClean : plan.history.clean with
    | false =>
      obtain ⟨reason, failed⟩ := persistFiles_appendFails serde bytes
        (relay.metadataFor primitives bytes now) relay.files historyReturns historyClean
      rw [failed]
      exact .appendFailed _ _ accepts historyClean (append_sameDurable_iff plan)
    | true =>
      cases lkgClean : plan.lkg.clean with
      | false =>
        obtain ⟨reason, failed⟩ := persistFiles_promotionFails serde bytes
          (relay.metadataFor primitives bytes now) relay.files returns historyClean lkgClean
        rw [failed]
        exact .promotionFailed _ _ accepts historyClean lkgClean
          (rolledBack_sameDurable_iff historyClean)
      | true =>
        rw [persistFiles_succeeds returns historyClean lkgClean]
        exact .stored header accepts historyClean lkgClean verified
  · obtain ⟨reason, refused⟩ := persist_refused serde accepts plan now
    rw [refused]
    exact .refused reason accepts

theorem Persisted.unchanged_iff {now : Nat} {after : RelayRuntimeState} {reason : RelayError}
    (persisted : Persisted serde primitives plan bytes now relay (.error after reason)) :
    Unchanged relay after ↔ Harmless serde primitives plan bytes now relay := by
  cases persisted with
  | refused _ refuses =>
    refine iff_of_true ⟨rfl, rfl, fun _ _ => rfl⟩ ?_
    exact
      { append := fun accepts => absurd accepts refuses
        promotion := fun accepts => absurd accepts refuses
        wraps := fun accepts => absurd accepts refuses }
  | appendFailed files _ accepts unclean same =>
    constructor
    · intro unchanged
      exact
        { append := fun _ _ => same.mp unchanged.files
          promotion := fun _ clean => by rw [unclean] at clean; cases clean
          wraps := fun _ clean => by rw [unclean] at clean; cases clean }
    · intro harmless
      exact ⟨rfl, rfl, same.mpr (harmless.append accepts unclean)⟩
  | promotionFailed files _ accepts clean unclean same =>
    constructor
    · intro unchanged
      exact
        { append := fun _ dirty => by rw [clean] at dirty; cases dirty
          promotion := fun _ _ _ => same.mp unchanged.files
          wraps := fun _ _ lkgClean => by rw [unclean] at lkgClean; cases lkgClean }
    · intro harmless
      exact ⟨rfl, rfl, same.mpr (harmless.promotion accepts clean unclean)⟩

end

end Pavis.Relay
