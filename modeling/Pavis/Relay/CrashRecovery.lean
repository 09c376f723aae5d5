/-
Crash safety of a publish.

A relay started on empty storage publishes any number of artifacts; one more
publish is cut off by a crash, and the relay is started again from the files
the crash left.
-/

import Pavis.Relay.RejectedPublish
import Pavis.Relay.Startup

namespace Pavis.Relay

open ByteText FaultyDisk Pavis.Pvs

/-- No step reports an error: each is done or the process dies in it. -/
def PublishPlan.unfailed (plan : PublishPlan) : Bool :=
  plan.history.unfailed && plan.lkg.unfailed

section
variable {serde : Serde} {primitives : Primitives} {maxPvsBytes : Nat}

/-- The four files a publish of a new version may replace, and by what. -/
structure Wrote (serde : Serde) (plan : PublishPlan) (bytes : Bytes) (metadata : ArtifactMetadata)
    (before after : Files) : Prop where
  lkgArtifact : after.read .lkgArtifact =
    if plan.history.clean && plan.lkg.artifactStored then some bytes
    else before.read .lkgArtifact
  lkgMetadata : after.read .lkgMetadata =
    if plan.history.clean && plan.lkg.metadataStored then some (serde.metadataToVec metadata)
    else before.read .lkgMetadata
  historyArtifact : plan.history.clean = true →
    after.read (.historyArtifact metadata.version) = some bytes
  historyMetadata : plan.history.clean = true →
    after.read (.historyMetadata metadata.version) = some (serde.metadataToVec metadata)
  otherArtifact : ∀ version, version ≠ metadata.version →
    after.read (.historyArtifact version) = before.read (.historyArtifact version)
  readable : StateReadable serde before → StateReadable serde after

variable {plan : PublishPlan} {bytes : Bytes} {metadata : ArtifactMetadata} {after : Files}
  {relay : RelayRuntimeState}

private theorem promotedPair_wrote (serde : Serde) (clean : plan.history.clean = true)
    (bytes : Bytes) (metadata : ArtifactMetadata) (files : Files) :
    Wrote serde plan bytes metadata files (promotedPair serde plan bytes metadata files) := by
  obtain ⟨artifactAt, metadataAt⟩ := promotedPair_history serde bytes metadata files clean
  obtain ⟨lkgArtifactAt, lkgMetadataAt⟩ := promotedPair_lkg serde bytes metadata files plan
  constructor
  · rw [clean, Bool.true_and]
    exact lkgArtifactAt
  · rw [clean, Bool.true_and]
    exact lkgMetadataAt
  · exact fun _ => artifactAt
  · exact fun _ => metadataAt
  · intro version different
    exact promotedPair_other rfl (by simpa using different) (by simp) (by simp) (by simp)
  · intro readable
    apply readable.of_same
    unfold promotedPair promoteToLkg
    rw [writePair_sameExcept plan.lkg _ _ _ _ _ .stateJson (by simp)]
    exact writePair_sameExcept plan.history _ _ _ _ files .stateJson (by simp)

private theorem Wrote.saveState {before : Files}
    (wrote : Wrote serde plan bytes metadata before after) (statePlan : StatePlan)
    (state : RelayState) :
    Wrote serde plan bytes metadata before (saveState serde statePlan state after).state := by
  have same := saveState_sameDurable serde statePlan state after
  exact
    { lkgArtifact := (same _ rfl).trans wrote.lkgArtifact
      lkgMetadata := (same _ rfl).trans wrote.lkgMetadata
      historyArtifact := fun clean => (same _ rfl).trans (wrote.historyArtifact clean)
      historyMetadata := fun clean => (same _ rfl).trans (wrote.historyMetadata clean)
      otherArtifact := fun version different =>
        (same _ rfl).trans (wrote.otherArtifact version different)
      readable := fun readable => (wrote.readable readable).saveState statePlan state }

private theorem append_wrote (unclean : plan.history.clean = false) (bytes : Bytes)
    (metadata : ArtifactMetadata) (files : Files) :
    Wrote serde plan bytes metadata files
      (appendToHistory serde plan.history metadata.version bytes metadata files).state := by
  have kept (path : StoragePath) (durable : path.durable = true) :=
    writePair_durable plan.history (.historyArtifact metadata.version)
      (.historyMetadata metadata.version) bytes (serde.metadataToVec metadata) files path durable
  constructor
  · rw [unclean]
    exact kept _ rfl (by simp) (by simp)
  · rw [unclean]
    exact kept _ rfl (by simp) (by simp)
  · intro clean
    rw [unclean] at clean
    cases clean
  · intro clean
    rw [unclean] at clean
    cases clean
  · intro version different
    exact kept _ rfl (by simpa using different) (by simp)
  · intro readable
    exact readable.of_same (writePair_sameExcept plan.history _ _ _ _ files .stateJson (by simp))

private theorem promoteOrRollback_isOk (plan : PublishPlan) (bytes : Bytes)
    (metadata : ArtifactMetadata) (files : Files) :
    (promoteOrRollback serde plan bytes metadata files).isOk = plan.lkg.clean := by
  rw [← writePair_isOk plan.lkg .lkgArtifact .lkgMetadata bytes (serde.metadataToVec metadata)
    files]
  unfold promoteOrRollback promoteToLkg
  cases writePair plan.lkg .lkgArtifact .lkgMetadata bytes (serde.metadataToVec metadata) files with
  | error after =>
    dsimp only
    cases rollback plan metadata.version after <;> rfl
  | _ => rfl

private theorem persistFiles_of_ok {files : Files} {value : Unit}
    (succeeds : persistFiles serde plan bytes metadata files = .ok after value) :
    plan.history.clean = true ∧ plan.lkg.clean = true ∧
      Wrote serde plan bytes metadata files after := by
  have isOk : (persistFiles serde plan bytes metadata files).isOk = true := by
    rw [succeeds]
    rfl
  simp only [persistFiles, appendToHistory, Result.andThen_isOk, writePair_isOk,
    promoteOrRollback_isOk, Bool.and_eq_true] at isOk
  obtain ⟨historyClean, lkgClean, _⟩ := isOk
  rw [persistFiles_appended historyClean, promoteOrRollback_ok lkgClean, Result.andThen_ok]
    at succeeds
  have stateAt := congrArg Result.state succeeds
  rw [Result.state_ignoreError, Result.state_ok] at stateAt
  rw [← stateAt]
  exact ⟨historyClean, lkgClean,
    (promotedPair_wrote serde historyClean bytes metadata files).saveState plan.state _⟩

/-- No error means no rollback, so a crash leaves a prefix of the writes. -/
theorem persistFiles_of_crashed (unfailed : plan.unfailed = true) {files : Files}
    (crashes : persistFiles serde plan bytes metadata files = .crashed after) :
    Wrote serde plan bytes metadata files after := by
  rw [PublishPlan.unfailed, Bool.and_eq_true] at unfailed
  have stateAt := congrArg Result.state crashes
  rw [Result.state_crashed] at stateAt
  rw [← stateAt]
  cases historyClean : plan.history.clean with
  | false =>
    rw [persistFiles, Result.andThen_state, appendToHistory, writePair_isOk, historyClean]
    exact append_wrote historyClean bytes metadata files
  | true =>
    have wrote := promotedPair_wrote serde historyClean bytes metadata files
    rw [persistFiles_appended historyClean]
    cases lkgClean : plan.lkg.clean with
    | false =>
      have promoted : promoteToLkg serde plan.lkg bytes metadata
          (appendToHistory serde plan.history metadata.version bytes metadata files).state =
          .crashed (promotedPair serde plan bytes metadata files) :=
        Result.crashed_of_avoids (writePair_avoids _ _ _ _ _ unfailed.2)
          ((writePair_isOk plan.lkg _ _ _ _ _).trans lkgClean)
      unfold promoteOrRollback
      rw [promoted]
      exact wrote
    | true =>
      rw [promoteOrRollback_ok lkgClean, Result.andThen_ok, Result.state_ignoreError]
      exact wrote.saveState plan.state _

theorem Accepts.servable (accepts : Accepts primitives relay bytes) :
    Servable primitives relay.maxPvsBytes bytes := by
  obtain ⟨within, verified⟩ := accepts
  refine ⟨?_, verified⟩
  intro exceeds
  unfold RelayRuntimeState.enforceLimits at within
  rw [if_pos exceeds] at within
  cases within

/-- Every way a publish can end. The in-memory update does not crash, so only
the files are ever cut off. -/
private inductive Ends (serde : Serde) (primitives : Primitives) (plan : PublishPlan)
    (bytes : Bytes) (now : Nat) (relay : RelayRuntimeState) :
    Result RelayRuntimeState RelayError ArtifactMetadata → Prop where
  | failed (after : RelayRuntimeState) (reason : RelayError) :
      Ends serde primitives plan bytes now relay (.error after reason)
  | crashed (files : Files) (accepts : Accepts primitives relay bytes)
      (crashes : persistFiles serde plan bytes (relay.metadataFor primitives bytes now)
        relay.files = .crashed files) :
      Ends serde primitives plan bytes now relay (.crashed { relay with files := files })
  | published (after : RelayRuntimeState) (accepts : Accepts primitives relay bytes)
      (persisted : persistFiles serde plan bytes (relay.metadataFor primitives bytes now)
        relay.files = .ok after.files ())
      (grows : relay.inner.version < nextVersion relay.inner.version)
      (version : after.inner.version = nextVersion relay.inner.version)
      (limit : after.maxPvsBytes = relay.maxPvsBytes) :
      Ends serde primitives plan bytes now relay
        (.ok after (relay.metadataFor primitives bytes now))

private theorem publishBytes_ends (serde : Serde) (primitives : Primitives) (plan : PublishPlan)
    (bytes : Bytes) (now installedAt : Nat) (relay : RelayRuntimeState) :
    Ends serde primitives plan bytes now relay
      (relay.publishBytes serde primitives plan bytes now installedAt) := by
  unfold RelayRuntimeState.publishBytes
  by_cases accepts : Accepts primitives relay bytes
  · obtain ⟨within, header, verified⟩ := id accepts
    rw [persist_accepted serde within verified]
    cases persisted : persistFiles serde plan bytes (relay.metadataFor primitives bytes now)
      relay.files with
    | error => exact .failed _ _
    | crashed files => exact .crashed files accepts persisted
    | ok files =>
      have sameLimit : ({ relay with files := files } : RelayRuntimeState).enforceLimits
          bytes.length = .ok () := within
      simp only [RelayRuntimeState.withFiles, Result.andThen_ok, RelayRuntimeState.publish,
        sameLimit, executePlan]
      by_cases grows : (relay.metadataFor primitives bytes now).version ≤ relay.inner.version
      · rw [if_pos grows]
        exact .failed _ _
      · rw [if_neg grows]
        exact .published _ accepts persisted (Nat.lt_of_not_le grows) rfl rfl
  · obtain ⟨reason, refused⟩ := persist_refused serde accepts plan now
    rw [refused]
    exact .failed _ _

structure PublishedBytes (serde : Serde) (primitives : Primitives) (plan : PublishPlan)
    (bytes : Bytes) (now : Nat) (relay after : RelayRuntimeState) (metadata : ArtifactMetadata) :
    Prop where
  servable : Servable primitives relay.maxPvsBytes bytes
  metadataAt : metadata = relay.metadataFor primitives bytes now
  grows : relay.inner.version < metadata.version
  historyClean : plan.history.clean = true
  lkgClean : plan.lkg.clean = true
  wrote : Wrote serde plan bytes metadata relay.files after.files
  version : after.inner.version = metadata.version
  limit : after.maxPvsBytes = relay.maxPvsBytes

variable {now : Nat} {left : RelayRuntimeState}

private theorem publishBytes_of_ok {installedAt : Nat} {after : RelayRuntimeState}
    (succeeds : relay.publishBytes serde primitives plan bytes now installedAt =
      .ok after metadata) :
    PublishedBytes serde primitives plan bytes now relay after metadata := by
  have ends := publishBytes_ends serde primitives plan bytes now installedAt relay
  rw [succeeds] at ends
  cases ends with
  | published _ accepts persisted grows version limit =>
    obtain ⟨historyClean, lkgClean, wrote⟩ := persistFiles_of_ok persisted
    exact
      { servable := accepts.servable
        metadataAt := rfl
        grows := grows
        historyClean := historyClean
        lkgClean := lkgClean
        wrote := wrote
        version := version
        limit := limit }

private theorem publishBytes_of_crashed (unfailed : plan.unfailed = true) {installedAt : Nat}
    (crashes : relay.publishBytes serde primitives plan bytes now installedAt = .crashed left) :
    Servable primitives relay.maxPvsBytes bytes ∧
      Wrote serde plan bytes (relay.metadataFor primitives bytes now) relay.files left.files := by
  have ends := publishBytes_ends serde primitives plan bytes now installedAt relay
  rw [crashes] at ends
  cases ends with
  | crashed files accepts cutOff =>
    exact ⟨accepts.servable, persistFiles_of_crashed unfailed cutOff⟩

/-- A relay started on empty storage and what it has acknowledged since, as
versions, bytes and checksums. -/
inductive Published (serde : Serde) (primitives : Primitives) (maxPvsBytes : Nat) :
    RelayRuntimeState → List (Nat × Bytes × Text) → Prop where
  | started {now : Nat} {relay : RelayRuntimeState}
      (starts : initState serde primitives maxPvsBytes now ∅ = .ok relay) :
      Published serde primitives maxPvsBytes relay []
  | publish {relay after : RelayRuntimeState} {served : List (Nat × Bytes × Text)}
      {plan : PublishPlan} {bytes : Bytes} {now installedAt : Nat} {metadata : ArtifactMetadata}
      (earlier : Published serde primitives maxPvsBytes relay served)
      (succeeds : relay.publishBytes serde primitives plan bytes now installedAt =
        .ok after metadata) :
      Published serde primitives maxPvsBytes after
        (served ++ [(metadata.version, bytes, metadata.checksum)])

/-- The files hold the last acknowledged artifact, or nothing yet. -/
inductive HoldsLast (serde : Serde) (primitives : Primitives) (relay : RelayRuntimeState) :
    List (Nat × Bytes × Text) → Prop where
  | nothing (version : relay.inner.version = 0)
      (artifact : relay.files.read .lkgArtifact = none)
      (metadata : relay.files.read .lkgMetadata = none)
      (history : ∀ version, relay.files.read (.historyArtifact version) = none) :
      HoldsLast serde primitives relay []
  | last (earlier : List (Nat × Bytes × Text)) (bytes : Bytes) (metadata : ArtifactMetadata)
      (pair : PairAt serde relay.files bytes metadata)
      (servable : Servable primitives relay.maxPvsBytes bytes)
      (version : metadata.version = relay.inner.version)
      (checksum : metadata.checksum = checksumForBytes primitives bytes) :
      HoldsLast serde primitives relay (earlier ++ [(metadata.version, bytes, metadata.checksum)])

structure Settled (serde : Serde) (primitives : Primitives) (maxPvsBytes : Nat)
    (relay : RelayRuntimeState) (served : List (Nat × Bytes × Text)) : Prop where
  limit : relay.maxPvsBytes = maxPvsBytes
  readable : StateReadable serde relay.files
  increasing : served.Pairwise fun first second => first.1 < second.1
  bounded : ∀ triple ∈ served, 0 < triple.1 ∧ triple.1 ≤ relay.inner.version
  machine : relay.inner.version < 2 ^ 64
  holds : HoldsLast serde primitives relay served

theorem Settled.started (starts : initState serde primitives maxPvsBytes now ∅ = .ok relay) :
    Settled serde primitives maxPvsBytes relay [] := by
  have unwritten : StateReadable serde (∅ : Files) := by
    intro bytes found
    cases found
  obtain ⟨fresh, startsFresh, _, version, limit, same, readable⟩ :=
    initState_nothing primitives maxPvsBytes rfl rfl unwritten now
  rw [starts] at startsFresh
  cases startsFresh
  exact
    { limit := limit
      readable := readable
      increasing := .nil
      bounded := by simp
      machine := by rw [version]; decide
      holds := .nothing version (same _ (by simp)) (same _ (by simp))
        fun _ => same _ (by simp) }

variable {served : List (Nat × Bytes × Text)}

theorem Settled.publish {after : RelayRuntimeState}
    (settled : Settled serde primitives maxPvsBytes relay served)
    (published : PublishedBytes serde primitives plan bytes now relay after metadata) :
    Settled serde primitives maxPvsBytes after
      (served ++ [(metadata.version, bytes, metadata.checksum)]) := by
  obtain ⟨artifactStored, metadataStored⟩ := PairPlan.stored_of_clean published.lkgClean
  have pair : PairAt serde after.files bytes metadata := by
    constructor
    · rw [published.wrote.lkgArtifact, published.historyClean, artifactStored]
      rfl
    · rw [published.wrote.lkgMetadata, published.historyClean, metadataStored]
      rfl
  have servable := published.servable
  rw [← published.limit] at servable
  have checksum : metadata.checksum = checksumForBytes primitives bytes := by
    rw [published.metadataAt]
    rfl
  have grows := published.grows
  refine
    { limit := published.limit.trans settled.limit
      readable := published.wrote.readable settled.readable
      increasing := ?_
      bounded := ?_
      machine := ?_
      holds := .last served bytes metadata pair servable published.version.symm checksum }
  · refine List.pairwise_append.mpr ⟨settled.increasing, List.pairwise_singleton _ _, ?_⟩
    intro earlier member newest isNewest
    rw [List.mem_singleton.mp isNewest]
    exact Nat.lt_of_le_of_lt (settled.bounded earlier member).2 grows
  · intro triple member
    rw [published.version]
    rcases List.mem_append.mp member with earlier | newest
    · have bounds := settled.bounded triple earlier
      omega
    · rw [List.mem_singleton.mp newest]
      exact ⟨Nat.zero_lt_of_lt grows, Nat.le_refl _⟩
  · rw [published.version, published.metadataAt]
    exact Nat.mod_lt _ (by decide)

theorem Published.settled (published : Published serde primitives maxPvsBytes relay served) :
    Settled serde primitives maxPvsBytes relay served := by
  induction published with
  | started starts => exact Settled.started starts
  | publish earlier succeeds ih => exact ih.publish (publishBytes_of_ok succeeds)

/-! ### After the crash -/

/-- What a client of the restarted relay may rely on. -/
structure CrashSafe (serde : Serde) (primitives : Primitives) (served : List (Nat × Bytes × Text))
    (interrupted : Nat × Bytes × Text) (restarted : RelayRuntimeState) : Prop where
  oneOfTwo : restarted.served = served.getLast? ∨ restarted.served = some interrupted
  reported : ∀ triple, restarted.served = some triple →
    ∃ metadata, restarted.statusLkg serde = some metadata ∧ metadata.version = triple.1 ∧
      metadata.checksum = checksumForBytes primitives triple.2.1
  unique : ∀ first ∈ served ++ restarted.served.toList,
    ∀ second ∈ served ++ restarted.served.toList, first.1 = second.1 → first = second

/-- The crash came between the two renames of the last known good pair, while
another artifact was being replaced. -/
structure Torn (plan : PublishPlan) (bytes : Bytes) (served : List (Nat × Bytes × Text)) :
    Prop where
  appended : plan.history.clean = true
  artifactReplaced : plan.lkg.artifactStored = true
  metadataKept : plan.lkg.metadataStored = false
  previous : ∃ last, served.getLast? = some last ∧ last.2.1 ≠ bytes

private theorem nextVersion_ne (version : Nat) : nextVersion version ≠ version := by
  unfold nextVersion
  omega

private theorem nextVersion_fresh {version earlier : Nat} (machine : version < 2 ^ 64)
    (positive : 0 < earlier) (bounded : earlier ≤ version) : earlier ≠ nextVersion version := by
  unfold nextVersion
  omega

theorem PairPlan.artifactStored_of_metadataStored {plan : PairPlan}
    (stored : plan.metadataStored = true) : plan.artifactStored = true := by
  simp only [metadataStored, artifactStored, Bool.and_eq_true] at stored ⊢
  exact ⟨stored.1.1, WritePlan.stored_of_clean stored.1.2⟩

theorem Settled.unique (settled : Settled serde primitives maxPvsBytes relay served) :
    ∀ first ∈ served, ∀ second ∈ served, first.1 = second.1 → first = second := by
  have apart : served.Pairwise fun first second => first.1 = second.1 → first = second :=
    settled.increasing.imp fun smaller same => absurd same (Nat.ne_of_lt smaller)
  have symmetric : Std.Symm fun first second : Nat × Bytes × Text =>
      first.1 = second.1 → first = second :=
    ⟨fun _ _ related same => (related same.symm).symm⟩
  intro first firstMember second secondMember
  exact apart.forall_of_forall (fun _ _ _ => rfl) firstMember secondMember

variable {restarted : RelayRuntimeState} {restartedAt : Nat}

theorem CrashSafe.of_last {interrupted last : Nat × Bytes × Text}
    (settled : Settled serde primitives maxPvsBytes relay served)
    (isLast : served.getLast? = some last) (servedAt : restarted.served = some last)
    (status : restarted.statusLkg serde = some metadata) (version : metadata.version = last.1)
    (checksum : metadata.checksum = checksumForBytes primitives last.2.1) :
    CrashSafe serde primitives served interrupted restarted := by
  refine ⟨.inl (servedAt.trans isLast.symm), ?_, ?_⟩
  · intro triple isServed
    cases servedAt.symm.trans isServed
    exact ⟨metadata, status, version, checksum⟩
  · have known : ∀ triple ∈ served ++ restarted.served.toList, triple ∈ served := by
      intro triple member
      rw [servedAt, Option.toList_some, List.mem_append, List.mem_singleton] at member
      rcases member with earlier | rfl
      · exact earlier
      · exact List.mem_of_getLast? isLast
    intro first firstMember second secondMember
    exact settled.unique first (known first firstMember) second (known second secondMember)

theorem CrashSafe.of_interrupted {checksum : Text}
    (settled : Settled serde primitives maxPvsBytes relay served)
    (servedAt : restarted.served = some (nextVersion relay.inner.version, bytes, checksum))
    (status : restarted.statusLkg serde = some metadata)
    (version : metadata.version = nextVersion relay.inner.version)
    (checksumAt : metadata.checksum = checksumForBytes primitives bytes) :
    CrashSafe serde primitives served (nextVersion relay.inner.version, bytes, checksum)
      restarted := by
  have fresh : ∀ triple ∈ served, triple.1 ≠ nextVersion relay.inner.version := by
    intro triple member
    obtain ⟨positive, bounded⟩ := settled.bounded triple member
    exact nextVersion_fresh settled.machine positive bounded
  refine ⟨.inr servedAt, ?_, ?_⟩
  · intro triple isServed
    cases servedAt.symm.trans isServed
    exact ⟨metadata, status, version, checksumAt⟩
  · intro first firstMember second secondMember same
    rw [servedAt, Option.toList_some, List.mem_append, List.mem_singleton]
      at firstMember secondMember
    rcases firstMember with firstEarlier | rfl
    · rcases secondMember with secondEarlier | rfl
      · exact settled.unique first firstEarlier second secondEarlier same
      · exact absurd same (fresh first firstEarlier)
    · rcases secondMember with secondEarlier | rfl
      · exact absurd same.symm (fresh second secondEarlier)
      · rfl

theorem CrashSafe.of_nothing {interrupted : Nat × Bytes × Text}
    (servedAt : restarted.served = none) : CrashSafe serde primitives [] interrupted restarted := by
  refine ⟨.inl servedAt, ?_, ?_⟩
  · intro triple isServed
    rw [servedAt] at isServed
    cases isServed
  · simp [servedAt]

private theorem restart_kept (settled : Settled serde primitives maxPvsBytes relay served)
    (wrote : Wrote serde plan bytes metadata relay.files left.files)
    (kept : (plan.history.clean && plan.lkg.artifactStored) = false)
    (interrupted : Nat × Bytes × Text) (restartedAt : Nat) :
    ∃ restarted, initState serde primitives maxPvsBytes restartedAt left.files = .ok restarted ∧
      CrashSafe serde primitives served interrupted restarted := by
  have metadataKept : (plan.history.clean && plan.lkg.metadataStored) = false := by
    cases stored : plan.lkg.metadataStored with
    | false => exact Bool.and_false _
    | true =>
      rw [PairPlan.artifactStored_of_metadataStored stored] at kept
      exact kept
  have readable := wrote.readable settled.readable
  have artifactAt := wrote.lkgArtifact
  have metadataAt := wrote.lkgMetadata
  rw [kept] at artifactAt
  rw [metadataKept] at metadataAt
  cases settled.holds with
  | nothing version artifact noMetadata =>
    obtain ⟨restarted, starts, servedAt, _⟩ := initState_nothing primitives maxPvsBytes
      (artifactAt.trans artifact) (metadataAt.trans noMetadata) readable restartedAt
    exact ⟨restarted, starts, .of_nothing servedAt⟩
  | last earlier previous lastMetadata pair previousServable version checksum =>
    rw [settled.limit] at previousServable
    have kept : PairAt serde left.files previous lastMetadata :=
      ⟨artifactAt.trans pair.artifact, metadataAt.trans pair.metadata⟩
    obtain ⟨restarted, starts, servedAt, status⟩ :=
      initState_repaired kept.repaired kept previousServable readable restartedAt
    rw [← checksum] at servedAt
    exact ⟨restarted, starts,
      .of_last settled List.getLast?_concat servedAt status rfl checksum⟩

private theorem restart_replaced (settled : Settled serde primitives maxPvsBytes relay served)
    (servable : Servable primitives maxPvsBytes bytes)
    (wrote : Wrote serde plan bytes (relay.metadataFor primitives bytes now) relay.files
      left.files) (appended : plan.history.clean = true) (stored : plan.lkg.metadataStored = true) :
    ∃ restarted, initState serde primitives maxPvsBytes restartedAt left.files = .ok restarted ∧
      CrashSafe serde primitives served
        (nextVersion relay.inner.version, bytes, checksumForBytes primitives bytes) restarted := by
  have pair : PairAt serde left.files bytes (relay.metadataFor primitives bytes now) := by
    constructor
    · rw [wrote.lkgArtifact, appended, PairPlan.artifactStored_of_metadataStored stored]
      rfl
    · rw [wrote.lkgMetadata, appended, stored]
      rfl
  obtain ⟨restarted, starts, servedAt, status⟩ :=
    initState_repaired pair.repaired pair servable (wrote.readable settled.readable) restartedAt
  exact ⟨restarted, starts, .of_interrupted settled servedAt status rfl rfl⟩

private theorem restart_recovered (settled : Settled serde primitives maxPvsBytes relay [])
    (servable : Servable primitives maxPvsBytes bytes)
    (wrote : Wrote serde plan bytes (relay.metadataFor primitives bytes now) relay.files
      left.files) (version : relay.inner.version = 0)
    (metadata : relay.files.read .lkgMetadata = none)
    (history : ∀ version, relay.files.read (.historyArtifact version) = none)
    (appended : plan.history.clean = true) (replaced : plan.lkg.artifactStored = true)
    (kept : plan.lkg.metadataStored = false) :
    ∃ restarted, initState serde primitives maxPvsBytes restartedAt left.files = .ok restarted ∧
      CrashSafe serde primitives []
        (nextVersion relay.inner.version, bytes, checksumForBytes primitives bytes) restarted := by
  have artifactFound : (left.files.read .lkgArtifact).isSome = true := by
    rw [wrote.lkgArtifact, appended, replaced]
    rfl
  have metadataMissing : left.files.read .lkgMetadata = none := by
    rw [wrote.lkgMetadata, kept]
    simpa using metadata
  have parses : parsesBack (relay.metadataFor primitives bytes now).version = true := by
    simp only [RelayRuntimeState.metadataFor, version]
    decide
  have only (other : Nat) (found : (left.files.read (.historyArtifact other)).isSome = true) :
      other = (relay.metadataFor primitives bytes now).version := by
    by_contra different
    rw [wrote.otherArtifact other different, history other] at found
    cases found
  obtain ⟨restarted, starts, servedAt, status⟩ :=
    initState_recovers artifactFound metadataMissing parses (wrote.historyArtifact appended)
      (wrote.historyMetadata appended) only servable (wrote.readable settled.readable) restartedAt
  exact ⟨restarted, starts, .of_interrupted settled servedAt status rfl rfl⟩

private theorem restart_torn {previous : Bytes}
    (settled : Settled serde primitives maxPvsBytes relay served)
    (servable : Servable primitives maxPvsBytes bytes)
    (pair : PairAt serde left.files bytes metadata) (readable : StateReadable serde left.files)
    (isLast : served.getLast? = some (metadata.version, previous, metadata.checksum))
    (version : metadata.version = relay.inner.version)
    (checksum : metadata.checksum = checksumForBytes primitives previous) :
    ∃ restarted, initState serde primitives maxPvsBytes restartedAt left.files = .ok restarted ∧
      (CrashSafe serde primitives served
          (nextVersion relay.inner.version, bytes, checksumForBytes primitives bytes) restarted ↔
        previous = bytes) := by
  obtain ⟨restarted, starts, servedAt, status⟩ :=
    initState_repaired pair.repaired pair servable readable restartedAt
  refine ⟨restarted, starts, ?_, ?_⟩
  · intro safe
    rcases safe.oneOfTwo with isPrevious | isInterrupted
    · rw [servedAt, isLast, Option.some.injEq, Prod.mk.injEq, Prod.mk.injEq] at isPrevious
      exact isPrevious.2.1.symm
    · rw [servedAt, version, Option.some.injEq, Prod.mk.injEq] at isInterrupted
      exact absurd isInterrupted.1.symm (nextVersion_ne _)
  · intro same
    subst same
    rw [← checksum] at servedAt
    exact .of_last settled isLast servedAt status rfl checksum

private theorem torn_concat_iff (appended : plan.history.clean = true)
    (replaced : plan.lkg.artifactStored = true) (kept : plan.lkg.metadataStored = false)
    (bytes : Bytes) (earlier : List (Nat × Bytes × Text)) (last : Nat × Bytes × Text) :
    Torn plan bytes (earlier ++ [last]) ↔ last.2.1 ≠ bytes := by
  constructor
  · intro torn
    obtain ⟨found, isLast, different⟩ := torn.previous
    rw [List.getLast?_concat] at isLast
    cases isLast
    exact different
  · intro different
    exact ⟨appended, replaced, kept, last, List.getLast?_concat, different⟩

theorem crash_safe_iff {relay left : RelayRuntimeState} {served : List (Nat × Bytes × Text)}
    (published : Published serde primitives maxPvsBytes relay served) {plan : PublishPlan}
    (unfailed : plan.unfailed = true) {bytes : Bytes} {now installedAt : Nat}
    (crashes : relay.publishBytes serde primitives plan bytes now installedAt = .crashed left)
    (restartedAt : Nat) :
    ∃ restarted, initState serde primitives maxPvsBytes restartedAt left.files = .ok restarted ∧
      (CrashSafe serde primitives served
          (nextVersion relay.inner.version, bytes, checksumForBytes primitives bytes) restarted ↔
        ¬Torn plan bytes served) := by
  have settled := published.settled
  obtain ⟨servable, wrote⟩ := publishBytes_of_crashed unfailed crashes
  rw [settled.limit] at servable
  cases replaced : (plan.history.clean && plan.lkg.artifactStored) with
  | false =>
    obtain ⟨restarted, starts, safe⟩ := restart_kept settled wrote replaced _ restartedAt
    refine ⟨restarted, starts, iff_of_true safe ?_⟩
    intro torn
    rw [torn.appended, torn.artifactReplaced] at replaced
    cases replaced
  | true =>
    obtain ⟨appended, artifactReplaced⟩ := Bool.and_eq_true_iff.mp replaced
    cases stored : plan.lkg.metadataStored with
    | true =>
      obtain ⟨restarted, starts, safe⟩ :=
        restart_replaced settled servable wrote appended stored
      refine ⟨restarted, starts, iff_of_true safe ?_⟩
      intro torn
      rw [torn.metadataKept] at stored
      cases stored
    | false =>
      cases settled.holds with
      | nothing version artifact metadata history =>
        obtain ⟨restarted, starts, safe⟩ := restart_recovered settled servable wrote version
          metadata history appended artifactReplaced stored
        refine ⟨restarted, starts, iff_of_true safe ?_⟩
        intro torn
        obtain ⟨last, isLast, _⟩ := torn.previous
        cases isLast
      | last earlier previous metadata pair previousServable version checksum =>
        have artifactAt : left.files.read .lkgArtifact = some bytes := by
          rw [wrote.lkgArtifact, replaced]
          rfl
        have metadataAt := wrote.lkgMetadata
        rw [stored, Bool.and_false] at metadataAt
        obtain ⟨restarted, starts, safeIff⟩ := restart_torn settled servable
          ⟨artifactAt, metadataAt.trans pair.metadata⟩ (wrote.readable settled.readable)
          List.getLast?_concat version checksum
        refine ⟨restarted, starts, safeIff.trans ?_⟩
        rw [torn_concat_iff appended artifactReplaced stored, not_not]

end

def everyStepDone : PublishPlan :=
  { history := PairPlan.allDone
    lkg := PairPlan.allDone
    removeArtifact := .done
    removeMetadata := .done
    state := StatePlan.allDone }

def diesBetweenRenames : PublishPlan :=
  { everyStepDone with
    lkg :=
      { PairPlan.allDone with
        metadata := { WritePlan.allDone with create := .crashed 0 } } }

def startedRelay : RelayRuntimeState :=
  freshRelay (saveState smallSerde StatePlan.allDone { currentVersion := 0 } ∅).state

def servingSmall : RelayRuntimeState :=
  (startedRelay.publishBytes smallSerde tabulated everyStepDone smallArtifact 0 0).state

def cutOff : RelayRuntimeState :=
  (servingSmall.publishBytes smallSerde tabulated diesBetweenRenames otherArtifact 0 0).state

def smallServed : Nat × Bytes × Text :=
  (1, smallArtifact, checksumForBytes tabulated smallArtifact)

private theorem startedRelay_starts : initState smallSerde tabulated 0 0 ∅ = .ok startedRelay := rfl

private theorem servingSmall_published :
    Published smallSerde tabulated 0 servingSmall [smallServed] := by
  have succeeds : startedRelay.publishBytes smallSerde tabulated everyStepDone smallArtifact 0 0 =
      .ok servingSmall
        { version := 1
          publishedAt := 0
          checksum := checksumForBytes tabulated smallArtifact
          size := 65 } := rfl
  exact .publish (.started startedRelay_starts) succeeds

theorem crash_serves_new_artifact_as_old_version :
    Published smallSerde tabulated 0 servingSmall [smallServed] ∧
      diesBetweenRenames.unfailed = true ∧
      servingSmall.publishBytes smallSerde tabulated diesBetweenRenames otherArtifact 0 0 =
        .crashed cutOff ∧
      ∃ restarted, initState smallSerde tabulated 0 0 cutOff.files = .ok restarted ∧
        restarted.served = some (1, otherArtifact, checksumForBytes tabulated otherArtifact) ∧
        ¬CrashSafe smallSerde tabulated [smallServed]
          (2, otherArtifact, checksumForBytes tabulated otherArtifact) restarted := by
  obtain ⟨restarted, starts, serves⟩ : ∃ restarted,
      initState smallSerde tabulated 0 0 cutOff.files = .ok restarted ∧
        restarted.served = some (1, otherArtifact, checksumForBytes tabulated otherArtifact) :=
    ⟨_, rfl, rfl⟩
  refine ⟨servingSmall_published, rfl, rfl, restarted, starts, serves, ?_⟩
  intro safe
  have oneOfTwo := safe.oneOfTwo
  rw [serves] at oneOfTwo
  revert oneOfTwo
  decide

/-- The same crash with the same artifact twice is safe. -/
theorem crash_safe_iff_republished :
    ∃ left restarted,
      servingSmall.publishBytes smallSerde tabulated diesBetweenRenames smallArtifact 0 0 =
        .crashed left ∧
      initState smallSerde tabulated 0 0 left.files = .ok restarted ∧
      CrashSafe smallSerde tabulated [smallServed]
        (2, smallArtifact, checksumForBytes tabulated smallArtifact) restarted := by
  obtain ⟨left, crashes⟩ : ∃ left, servingSmall.publishBytes smallSerde tabulated
      diesBetweenRenames smallArtifact 0 0 = .crashed left := ⟨_, rfl⟩
  obtain ⟨restarted, starts, safeIff⟩ := crash_safe_iff servingSmall_published rfl crashes 0
  refine ⟨left, restarted, crashes, starts, safeIff.mpr ?_⟩
  intro torn
  obtain ⟨last, isLast, different⟩ := torn.previous
  cases isLast
  exact different rfl

end Pavis.Relay
