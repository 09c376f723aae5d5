/-
Verifying an update.

Every step of `verify_update` may fail: the checks in memory, the write of the
temporary file, and the checks of what was written.
-/

import Pavis.Agent.ApplyUpdate
import Pavis.Config.ReloadSafety
import Pavis.Pvs.FileRead

namespace Pavis.Agent

open ByteText FaultyDisk
open Config (ReloadSafetyError RuntimeConfig StringEscaping ensureRuntimeReloadSafe)
open Pvs (Archiver FileSession Hasher PvsError checksumForBytes headerSize
  readVerifiedFile_served usizeMax verify verifyBytes)

def loadBytes {γ : Type} (archiver : Archiver γ) (bytes : Bytes) : Except PvsError γ :=
  match verifyBytes archiver.primitives bytes with
  | .error reason => .error reason
  | .ok _ =>
    if archiver.primitives.archived (bytes.drop headerSize) then
      match archiver.deserialize (bytes.drop headerSize) with
      | .error _ => .error .corruptArchive
      | .ok config => .ok config
    else .error .corruptArchive

theorem load_served {γ : Type} (archiver : Archiver γ) (hasher : Hasher archiver.primitives.sha256)
    {session : FileSession} {bytes : Bytes} (serves : session.Serves bytes)
    (addressable : bytes.length ≤ usizeMax) :
    Pvs.load archiver hasher session = loadBytes archiver bytes := by
  unfold Pvs.load loadBytes
  rw [readVerifiedFile_served hasher serves addressable]
  cases verifyBytes archiver.primitives bytes with
  | error | ok => rfl

variable {bytes : Bytes}

/-- The temporary file of the temporary file, with a fixed name where the file name is not
UTF-8. -/
def atomicTmpPath (path : LkgPath) : Text :=
  let fileName := path.fileStem ++ (ascii '.' :: literal "tmp.pvs")
  let shown := if (decodeUtf8 fileName).isSome then fileName else literal "atomic_write"
  path.parent ++ (ascii '.' :: shown ++ literal ".tmp")

private theorem lastDot_inj {first second firstEnd secondEnd : Text} (one : ascii '.' ∉ firstEnd)
    (other : ascii '.' ∉ secondEnd)
    (same : first ++ ascii '.' :: firstEnd = second ++ ascii '.' :: secondEnd) :
    first = second ∧ firstEnd = secondEnd := by
  have flipped := congrArg List.reverse same
  simp only [List.reverse_append, List.reverse_cons, List.append_assoc, List.singleton_append]
    at flipped
  have apart : ∀ {text : Text}, ascii '.' ∉ text → contains text.reverse (ascii '.') = false :=
    fun absent => contains_eq_false.mpr fun member => absent (List.mem_reverse.mp member)
  have split := splitOnce_append (apart one) first.reverse
  rw [flipped, splitOnce_append (apart other), Option.some.injEq, Prod.mk.injEq,
    List.reverse_inj, List.reverse_inj] at split
  exact ⟨split.2.symm, split.1.symm⟩

private theorem isSome_decodeUtf8 {text : Text} (ascii : ∀ byte ∈ text, byte < 0x80) :
    (decodeUtf8 text).isSome = true := by
  rw [decodeUtf8_ascii ascii]
  rfl

theorem ne_shown {fileName name rest ending : Text} (whole : name ++ rest = fileName)
    (plainRest : ∀ byte ∈ rest, byte < 0x80) (plainEnding : ∀ byte ∈ ending, byte < 0x80) :
    name ≠ ascii '.' :: (if (decodeUtf8 fileName).isSome then fileName
      else literal "atomic_write") ++ ending := by
  subst whole
  intro same
  split at same
  · have lengths := congrArg List.length same
    simp only [List.length_append, List.length_cons] at lengths
    omega
  · rename_i invalid
    refine invalid (isSome_decodeUtf8 ?_)
    rw [same]
    exact List.forall_mem_append.mpr
      ⟨List.forall_mem_append.mpr ⟨by decide, plainEnding⟩, plainRest⟩

theorem atomicTmpPath_ne_tmp (path : LkgPath) : tmpPathFor path ≠ atomicTmpPath path := by
  unfold tmpPathFor atomicTmpPath
  intro same
  rw [List.append_assoc] at same
  exact ne_shown (List.append_nil _) (List.forall_mem_nil _) (by decide)
    (List.append_cancel_left same)

private theorem atomicTmpPath_ne (path : LkgPath) : path.toText ≠ atomicTmpPath path := by
  unfold LkgPath.toText atomicTmpPath
  intro same
  cases extensionAt : path.extension with
  | none =>
    rw [extensionAt] at same
    exact ne_shown rfl (by decide) (by decide) (List.append_cancel_left same)
  | some suffix =>
    rw [extensionAt] at same
    dsimp only at same
    rw [List.append_assoc] at same
    obtain ⟨stems, -⟩ := lastDot_inj (path.plain suffix extensionAt)
      (show ascii '.' ∉ literal "tmp" by decide) (List.append_cancel_left same)
    exact ne_shown rfl (by decide) (List.forall_mem_nil _) (stems.trans (List.append_nil _).symm)

inductive VerifyError where
  | mismatch (message : Text)
  | invalid (reason : PvsError)
  | directory
  | write
  | load (reason : PvsError)
  | reload (reason : ReloadSafetyError)
  | environment
  | materialise
  deriving DecidableEq

structure VerifyPlan where
  directory : Verdict
  write : WritePlan
  load : Verdict
  environment : Verdict
  materialise : Verdict
  remove : Verdict
  deriving DecidableEq

section

variable {Materialized : Type}

abbrev Verified (Materialized α : Type) :=
  Result (ConfigAgent RuntimeConfig Materialized) VerifyError α

def storeTmp (plan : VerifyPlan) (bytes : Bytes)
    (agent : ConfigAgent RuntimeConfig Materialized) : Verified Materialized Unit :=
  (inert plan.directory .directory agent).andThen fun agent _ =>
    agent.withDisk (writeAtomic plan.write .write (atomicTmpPath agent.lkgPath)
      (tmpPathFor agent.lkgPath) bytes agent.disk)

def discard {α : Type} (plan : VerifyPlan) (reason : VerifyError)
    (agent : ConfigAgent RuntimeConfig Materialized) : Verified Materialized α :=
  discardTmp plan.remove (tmpPathFor agent.lkgPath) reason agent

def loadTmp (archiver : Archiver RuntimeConfig) (plan : VerifyPlan)
    (agent : ConfigAgent RuntimeConfig Materialized) : Verified Materialized RuntimeConfig :=
  match plan.load with
  | .crashed _ => .crashed agent
  | .failed _ => discard plan (.load .io) agent
  | .done =>
    match agent.disk.read (tmpPathFor agent.lkgPath) with
    | none => discard plan (.load .io) agent
    | some bytes =>
      match loadBytes archiver bytes with
      | .error reason => discard plan (.load reason) agent
      | .ok config => .ok agent config

def validateRuntimeEnv (plan : VerifyPlan) (agent : ConfigAgent RuntimeConfig Materialized) :
    Verified Materialized Unit :=
  match plan.environment with
  | .crashed _ => .crashed agent
  | .failed _ => discard plan .environment agent
  | .done => .ok agent ()

def materialiseOnce (build : RuntimeConfig → Option Materialized) (plan : VerifyPlan)
    (config : RuntimeConfig) (agent : ConfigAgent RuntimeConfig Materialized) :
    Verified Materialized Unit :=
  match plan.materialise with
  | .crashed _ => .crashed agent
  | .failed _ => .error agent .materialise
  | .done => if (build config).isSome then .ok agent () else .error agent .materialise

variable (escaping : StringEscaping) (archiver : Archiver RuntimeConfig)
  (build : RuntimeConfig → Option Materialized)

def checkTmp (plan : VerifyPlan) (agent : ConfigAgent RuntimeConfig Materialized) :
    Verified Materialized Unit :=
  (loadTmp archiver plan agent).andThen fun agent config =>
    match ensureRuntimeReloadSafe escaping agent.state.config config with
    | .error reason => .error agent (.reload reason)
    | .ok () =>
      (validateRuntimeEnv plan agent).andThen fun agent _ =>
        materialiseOnce build plan config agent

def verifyUpdate (plan : VerifyPlan) (bytes : Bytes) (expectedEtag : Text)
    (configVersion : Option ConfigVersion) (configSize : Option Nat)
    (agent : ConfigAgent RuntimeConfig Materialized) : Verified Materialized VerifiedUpdate :=
  let actualEtag := checksumForBytes archiver.primitives bytes
  if actualEtag ≠ expectedEtag then
    .error agent (.mismatch (literal "etag/sha256 mismatch: expected=" ++ expectedEtag ++
      literal ", computed=" ++ actualEtag))
  else
    match verify archiver.primitives bytes with
    | .error reason => .error agent (.invalid reason)
    | .ok _ =>
      (storeTmp plan bytes agent).andThen fun agent _ =>
        (checkTmp escaping archiver build plan agent).andThen fun agent _ =>
          .ok agent
            { etag := expectedEtag
              version := configVersion
              size := configSize
              tmpPath := tmpPathFor agent.lkgPath }

def SameFiles (before after : Disk Text) : Prop :=
  ∀ path, (after.read path).isSome = (before.read path).isSome

/-- A failure leaves no trace, and a success holds what was checked. -/
def LeavesNoTrace (bytes : Bytes) (etag : Text)
    (agent : ConfigAgent RuntimeConfig Materialized) :
    Verified Materialized VerifiedUpdate → Prop
  | .ok after update =>
    checksumForBytes archiver.primitives bytes = etag ∧
    (∃ header, verify archiver.primitives bytes = .ok header) ∧
    (∃ config, loadBytes archiver bytes = .ok config ∧
      ensureRuntimeReloadSafe escaping agent.state.config config = .ok ()) ∧
    after.disk.read update.tmpPath = some bytes
  | .error after _ =>
    after.state = agent.state ∧
    after.disk.read agent.lkgPath.toText = agent.disk.read agent.lkgPath.toText ∧
    SameFiles agent.disk after.disk
  | .crashed _ => True

/-- The check that refuses an update once it is written. -/
inductive Refusal where
  | load
  | reload
  | environment
  | materialise
  deriving DecidableEq

def refusal (plan : VerifyPlan) (current : RuntimeConfig) (bytes : Bytes) : Option Refusal :=
  match plan.load with
  | .crashed _ => none
  | .failed _ => some .load
  | .done =>
    match loadBytes archiver bytes with
    | .error _ => some .load
    | .ok config =>
      match ensureRuntimeReloadSafe escaping current config with
      | .error _ => some .reload
      | .ok () =>
        match plan.environment with
        | .crashed _ => none
        | .failed _ => some .environment
        | .done =>
          match plan.materialise with
          | .crashed _ => none
          | .failed _ => some .materialise
          | .done => if (build config).isSome then none else some .materialise

/-- Whether the temporary file is still there when the refusal is returned. -/
def Refusal.leavesTmp : Refusal → Verdict → Option Bool
  | .reload, _ | .materialise, _ => some true
  | .load, .done | .environment, .done => some false
  | .load, .failed _ | .environment, .failed _ => some true
  | .load, .crashed _ | .environment, .crashed _ => none

/-- The call fails in the middle of the write and leaves the file it has created, or it
refuses what it has written and leaves another file there than before. -/
def TraceLeft (plan : VerifyPlan) (bytes : Bytes) (etag : Text)
    (agent : ConfigAgent RuntimeConfig Materialized) : Prop :=
  (checksumForBytes archiver.primitives bytes = etag ∧
    (∃ header, verify archiver.primitives bytes = .ok header) ∧ plan.directory = .done) ∧
  (((∃ progress, plan.write.outcome = .failed progress) ∧ plan.write.created = true ∧
      agent.disk.read (atomicTmpPath agent.lkgPath) = none) ∨
    (plan.write.outcome = .done ∧ ∃ refused left,
      refusal escaping archiver build plan agent.state.config bytes = some refused ∧
      refused.leavesTmp plan.remove = some left ∧
      ¬((agent.disk.read (tmpPathFor agent.lkgPath)).isSome = left ∧
        agent.disk.read (atomicTmpPath agent.lkgPath) = none)))

/-! ### Steps -/

variable {escaping archiver build}

private theorem sameFiles_iff {before after : Disk Text} {paths : List Text}
    (same : before.SameExcept after paths) :
    SameFiles before after ↔
      ∀ path ∈ paths, (after.read path).isSome = (before.read path).isSome := by
  constructor
  · intro files path _
    exact files path
  · intro listed path
    by_cases member : path ∈ paths
    · exact listed path member
    · rw [same path member]

/-- The update is in the temporary file, and nothing else has changed. -/
structure Stored (bytes : Bytes) (agent : ConfigAgent RuntimeConfig Materialized)
    (disk : Disk Text) : Prop where
  same : agent.disk.SameExcept disk [tmpPathFor agent.lkgPath, atomicTmpPath agent.lkgPath]
  held : disk.read (tmpPathFor agent.lkgPath) = some bytes
  renamed : disk.read (atomicTmpPath agent.lkgPath) = none

theorem storeTmp_cases (plan : VerifyPlan) (bytes : Bytes)
    (agent : ConfigAgent RuntimeConfig Materialized) :
    ((∃ progress, plan.directory = .failed progress) ∧
      storeTmp plan bytes agent = .error agent .directory) ∨
    ((∃ progress, plan.directory = .crashed progress) ∧
      ∃ after, storeTmp plan bytes agent = .crashed after) ∨
    (plan.directory = .done ∧
      ((plan.write.outcome = .done ∧ ∃ disk, Stored bytes agent disk ∧
        storeTmp plan bytes agent = .ok { agent with disk := disk } ()) ∨
      ((∃ progress, plan.write.outcome = .failed progress) ∧ ∃ disk,
        agent.disk.SameExcept disk [atomicTmpPath agent.lkgPath] ∧
        (disk.read (atomicTmpPath agent.lkgPath)).isSome =
          (plan.write.created || (agent.disk.read (atomicTmpPath agent.lkgPath)).isSome) ∧
        storeTmp plan bytes agent = .error { agent with disk := disk } .write) ∨
      ((∃ progress, plan.write.outcome = .crashed progress) ∧
        ∃ after, storeTmp plan bytes agent = .crashed after))) := by
  unfold storeTmp
  cases plan.directory with
  | failed progress => exact .inl ⟨⟨progress, rfl⟩, rfl⟩
  | crashed progress => exact .inr (.inl ⟨⟨progress, rfl⟩, agent, rfl⟩)
  | done =>
    refine .inr (.inr ⟨rfl, ?_⟩)
    rcases writeAtomic_cases plan.write VerifyError.write (atomicTmpPath_ne_tmp agent.lkgPath)
        bytes agent.disk with
      ⟨ends, disk, runs, same, held, renamed⟩ | ⟨ends, disk, runs, same, there⟩ |
      ⟨ends, disk, runs⟩
    · exact .inl ⟨ends, disk, ⟨same, held, renamed⟩, congrArg agent.withDisk runs⟩
    · exact .inr (.inl ⟨ends, disk, same, there, congrArg agent.withDisk runs⟩)
    · exact .inr (.inr ⟨ends, _, congrArg agent.withDisk runs⟩)

/-- A refusal is returned, with the temporary file removed or not, or the process dies in
the removal. -/
def RefusedAs {α : Type} (refused : Refusal) (plan : VerifyPlan)
    (agent : ConfigAgent RuntimeConfig Materialized) (result : Verified Materialized α) : Prop :=
  match refused.leavesTmp plan.remove with
  | some true => ∃ reason, result = .error agent reason
  | some false => ∃ reason, result =
      .error { agent with disk := agent.disk.remove (tmpPathFor agent.lkgPath) } reason
  | none => ∃ after, result = .crashed after

variable {plan : VerifyPlan} {agent : ConfigAgent RuntimeConfig Materialized}

theorem RefusedAs.andThen {α β : Type} {refused : Refusal} {result : Verified Materialized α}
    (stops : RefusedAs refused plan agent result)
    (next : ConfigAgent RuntimeConfig Materialized → α → Verified Materialized β) :
    RefusedAs refused plan agent (result.andThen next) := by
  unfold RefusedAs at stops ⊢
  split at stops <;> obtain ⟨found, rfl⟩ := stops <;> exact ⟨found, rfl⟩

private theorem discard_refusedAs {α : Type} (plan : VerifyPlan) (reason : VerifyError)
    (agent : ConfigAgent RuntimeConfig Materialized) :
    RefusedAs .load plan agent (discard plan reason agent : Verified Materialized α) ∧
    RefusedAs .environment plan agent (discard plan reason agent : Verified Materialized α) := by
  unfold RefusedAs discard discardTmp
  cases plan.remove <;> exact ⟨⟨_, rfl⟩, _, rfl⟩

variable {bytes : Bytes} {etag : Text} {disk : Disk Text}

variable (escaping archiver build) in
private theorem checkTmp_cases (plan : VerifyPlan)
    (held : agent.disk.read (tmpPathFor agent.lkgPath) = some bytes) :
    match refusal escaping archiver build plan agent.state.config bytes with
    | some refused => RefusedAs refused plan agent (checkTmp escaping archiver build plan agent)
    | none =>
      (∃ after, checkTmp escaping archiver build plan agent = .crashed after) ∨
      (checkTmp escaping archiver build plan agent = .ok agent () ∧
        ∃ config, loadBytes archiver bytes = .ok config ∧
          ensureRuntimeReloadSafe escaping agent.state.config config = .ok ()) := by
  unfold refusal checkTmp loadTmp
  cases plan.load with
  | crashed => exact .inl ⟨agent, rfl⟩
  | failed => exact (discard_refusedAs plan _ agent).1.andThen _
  | done =>
    rw [held]
    dsimp only
    cases loaded : loadBytes archiver bytes with
    | error => exact (discard_refusedAs plan _ agent).1.andThen _
    | ok config =>
      dsimp only [Result.andThen_ok]
      cases safe : ensureRuntimeReloadSafe escaping agent.state.config config with
      | error => exact ⟨_, rfl⟩
      | ok =>
        unfold validateRuntimeEnv
        cases plan.environment with
        | crashed => exact .inl ⟨agent, rfl⟩
        | failed => exact (discard_refusedAs plan _ agent).2.andThen _
        | done =>
          dsimp only [Result.andThen_ok]
          unfold materialiseOnce
          cases plan.materialise with
          | crashed => exact .inl ⟨agent, rfl⟩
          | failed => exact ⟨_, rfl⟩
          | done =>
            cases (build config).isSome with
            | true => exact .inr ⟨rfl, config, rfl, safe⟩
            | false => exact ⟨_, rfl⟩

theorem error_leavesNoTrace_iff {paths : List Text} (same : agent.disk.SameExcept disk paths)
    (outside : agent.lkgPath.toText ∉ paths) (reason : VerifyError) :
    LeavesNoTrace escaping archiver bytes etag agent
        (.error { agent with disk := disk } reason) ↔
      ∀ path ∈ paths, (disk.read path).isSome = (agent.disk.read path).isSome := by
  rw [← sameFiles_iff same]
  exact ⟨fun unchanged => unchanged.2.2, fun files => ⟨rfl, same _ outside, files⟩⟩

theorem lkgPath_outside (path : LkgPath) : path.toText ∉ [tmpPathFor path, atomicTmpPath path] := by
  simp only [List.mem_cons, List.not_mem_nil, or_false, not_or]
  exact ⟨tmpPathFor_ne path, atomicTmpPath_ne path⟩

private theorem stranded_iff {created : Bool}
    (same : agent.disk.SameExcept disk [atomicTmpPath agent.lkgPath])
    (there : (disk.read (atomicTmpPath agent.lkgPath)).isSome =
      (created || (agent.disk.read (atomicTmpPath agent.lkgPath)).isSome)) (reason : VerifyError) :
    LeavesNoTrace escaping archiver bytes etag agent
        (.error { agent with disk := disk } reason) ↔
      ¬(created = true ∧ agent.disk.read (atomicTmpPath agent.lkgPath) = none) := by
  have outside : agent.lkgPath.toText ∉ [atomicTmpPath agent.lkgPath] :=
    fun member => lkgPath_outside agent.lkgPath (List.mem_cons_of_mem _ member)
  rw [error_leavesNoTrace_iff same outside, List.forall_mem_singleton, there]
  cases agent.disk.read (atomicTmpPath agent.lkgPath) <;> cases created <;> simp

private theorem sameTwo_iff {written first second : Option Bytes} :
    (written.isSome = first.isSome ∧ (none : Option Bytes).isSome = second.isSome) ↔
      first.isSome = written.isSome ∧ second = none := by
  cases second <;> simp [eq_comm]

theorem refused_iff {refused : Refusal} {left : Bool} (stored : Stored bytes agent disk)
    (leaves : refused.leavesTmp plan.remove = some left)
    {result : Verified Materialized VerifiedUpdate}
    (stops : RefusedAs refused plan { agent with disk := disk } result) :
    LeavesNoTrace escaping archiver bytes etag agent result ↔
      (agent.disk.read (tmpPathFor agent.lkgPath)).isSome = left ∧
        agent.disk.read (atomicTmpPath agent.lkgPath) = none := by
  unfold RefusedAs at stops
  rw [leaves] at stops
  cases left with
  | true =>
    obtain ⟨reason, rfl⟩ := stops
    rw [error_leavesNoTrace_iff stored.same (lkgPath_outside agent.lkgPath),
      List.forall_mem_cons, List.forall_mem_singleton, stored.held, stored.renamed]
    exact sameTwo_iff
  | false =>
    obtain ⟨reason, rfl⟩ := stops
    have removed : agent.disk.SameExcept (disk.remove (tmpPathFor agent.lkgPath))
        [tmpPathFor agent.lkgPath, atomicTmpPath agent.lkgPath] := by
      intro path outside
      rw [Disk.read_remove_other disk (List.ne_of_not_mem_cons outside)]
      exact stored.same path outside
    rw [error_leavesNoTrace_iff removed (lkgPath_outside agent.lkgPath),
      List.forall_mem_cons, List.forall_mem_singleton, Disk.read_remove_same,
      Disk.read_remove_other disk (atomicTmpPath_ne_tmp agent.lkgPath).symm, stored.renamed]
    exact sameTwo_iff

theorem TraceLeft.refused (trace : TraceLeft escaping archiver build plan bytes etag agent)
    (ends : plan.write.outcome = .done) :
    ∃ left, (refusal escaping archiver build plan agent.state.config bytes).bind
        (·.leavesTmp plan.remove) = some left ∧
      ¬((agent.disk.read (tmpPathFor agent.lkgPath)).isSome = left ∧
        agent.disk.read (atomicTmpPath agent.lkgPath) = none) := by
  obtain ⟨_, ⟨⟨_, failed⟩, _⟩ | ⟨_, refused, left, refusedBy, leaves, differ⟩⟩ := trace
  · rw [ends] at failed
    cases failed
  · exact ⟨left, by rw [refusedBy, Option.bind_some, leaves], differ⟩

private theorem written_iff (admitted : checksumForBytes archiver.primitives bytes = etag ∧
      (∃ header, verify archiver.primitives bytes = .ok header) ∧ plan.directory = .done)
    (ends : plan.write.outcome = .done) (stored : Stored bytes agent disk)
    (version : Option ConfigVersion) (size : Option Nat) :
    LeavesNoTrace escaping archiver bytes etag agent
        ((checkTmp escaping archiver build plan { agent with disk := disk }).andThen
          fun agent _ => .ok agent ⟨etag, version, size, tmpPathFor agent.lkgPath⟩) ↔
      ¬TraceLeft escaping archiver build plan bytes etag agent := by
  have checked := checkTmp_cases escaping archiver build plan
    (show ({ agent with disk := disk } : ConfigAgent RuntimeConfig Materialized).disk.read
      (tmpPathFor agent.lkgPath) = some bytes from stored.held)
  dsimp only at checked
  cases refusedAt : refusal escaping archiver build plan agent.state.config bytes with
  | some refused =>
    rw [refusedAt] at checked
    have stops := RefusedAs.andThen checked fun agent _ =>
      .ok agent (⟨etag, version, size, tmpPathFor agent.lkgPath⟩ : VerifiedUpdate)
    cases leaves : refused.leavesTmp plan.remove with
    | some left =>
      rw [refused_iff stored leaves stops]
      constructor
      · intro same trace
        obtain ⟨_, leftBy, differ⟩ := trace.refused ends
        rw [refusedAt, Option.bind_some, leaves] at leftBy
        cases leftBy
        exact differ same
      · intro clean
        by_contra differ
        exact clean ⟨admitted, .inr ⟨ends, refused, left, refusedAt, leaves, differ⟩⟩
    | none =>
      unfold RefusedAs at stops
      rw [leaves] at stops
      obtain ⟨after, runs⟩ := stops
      rw [runs]
      refine iff_of_true trivial fun trace => ?_
      obtain ⟨_, leftBy, _⟩ := trace.refused ends
      rw [refusedAt, Option.bind_some, leaves] at leftBy
      cases leftBy
  | none =>
    rw [refusedAt] at checked
    have unrefused : ¬TraceLeft escaping archiver build plan bytes etag agent := by
      intro trace
      obtain ⟨_, leftBy, _⟩ := trace.refused ends
      rw [refusedAt] at leftBy
      cases leftBy
    refine iff_of_true ?_ unrefused
    rcases checked with ⟨after, runs⟩ | ⟨runs, config, loaded, safe⟩
    · rw [runs]
      trivial
    · rw [runs]
      exact ⟨admitted.1, admitted.2.1, ⟨config, loaded, safe⟩, stored.held⟩

/-- Without a trace a call ends well, fails before it writes, or fails with the files there
that were there before. -/
theorem verify_leaves_no_trace_iff (plan : VerifyPlan) (bytes : Bytes) (etag : Text)
    (version : Option ConfigVersion) (size : Option Nat)
    (agent : ConfigAgent RuntimeConfig Materialized) :
    LeavesNoTrace escaping archiver bytes etag agent
        (verifyUpdate escaping archiver build plan bytes etag version size agent) ↔
      ¬TraceLeft escaping archiver build plan bytes etag agent := by
  unfold verifyUpdate
  dsimp only
  by_cases tagged : checksumForBytes archiver.primitives bytes = etag
  case neg =>
    rw [if_pos tagged]
    exact iff_of_true ⟨rfl, rfl, fun _ => rfl⟩ fun trace => tagged trace.1.1
  rw [if_neg (not_not.mpr tagged)]
  cases verified : verify archiver.primitives bytes with
  | error =>
    refine iff_of_true ⟨rfl, rfl, fun _ => rfl⟩ ?_
    rintro ⟨⟨_, ⟨header, passed⟩, _⟩, _⟩
    rw [verified] at passed
    cases passed
  | ok header =>
    dsimp only
    rcases storeTmp_cases plan bytes agent with ⟨⟨progress, failed⟩, runs⟩ |
      ⟨⟨progress, crashed⟩, after, runs⟩ | ⟨made, ⟨ends, disk, stored, runs⟩ |
      ⟨ends, disk, same, there, runs⟩ | ⟨⟨progress, ends⟩, after, runs⟩⟩
    · rw [runs]
      refine iff_of_true ⟨rfl, rfl, fun _ => rfl⟩ fun trace => ?_
      have made := trace.1.2.2
      rw [failed] at made
      cases made
    · rw [runs]
      refine iff_of_true trivial fun trace => ?_
      have made := trace.1.2.2
      rw [crashed] at made
      cases made
    · rw [runs, Result.andThen_ok]
      exact written_iff ⟨tagged, ⟨header, verified⟩, made⟩ ends stored version size
    · rw [runs, Result.andThen_error, stranded_iff same there, not_iff_not]
      constructor
      · intro created
        exact ⟨⟨tagged, ⟨header, verified⟩, made⟩, .inl ⟨ends, created⟩⟩
      · rintro ⟨_, ⟨_, created⟩ | ⟨done, _⟩⟩
        · exact created
        · obtain ⟨progress, failed⟩ := ends
          rw [done] at failed
          cases failed
    · rw [runs]
      refine iff_of_true trivial ?_
      rintro ⟨_, ⟨⟨_, failed⟩, _⟩ | ⟨done, _⟩⟩
      · rw [ends] at failed
        cases failed
      · rw [ends] at done
        cases done

end

def leftInTmp {Materialized : Type} (agent : ConfigAgent RuntimeConfig Materialized) :
    Verified Materialized VerifiedUpdate → Option Bytes
  | .error after _ => after.disk.read (tmpPathFor agent.lkgPath)
  | .ok _ _ | .crashed _ => none

private theorem not_leavesNoTrace_of_left {Materialized : Type} {escaping : StringEscaping}
    {archiver : Archiver RuntimeConfig} {agent : ConfigAgent RuntimeConfig Materialized}
    {result : Verified Materialized VerifiedUpdate} {contents : Bytes} {etag : Text}
    (fresh : agent.disk.read (tmpPathFor agent.lkgPath) = none)
    (stays : leftInTmp agent result = some contents) :
    ¬LeavesNoTrace escaping archiver bytes etag agent result := by
  cases result with
  | ok | crashed => cases stays
  | error after =>
    rintro ⟨_, _, files⟩
    have there := files (tmpPathFor agent.lkgPath)
    rw [show after.disk.read (tmpPathFor agent.lkgPath) = some contents from stays, fresh]
      at there
    cases there

private theorem not_traceLeft_of_removed {Materialized : Type} {escaping : StringEscaping}
    {archiver : Archiver RuntimeConfig} {build : RuntimeConfig → Option Materialized}
    {plan : VerifyPlan} {agent : ConfigAgent RuntimeConfig Materialized} {refused : Refusal}
    {etag : Text} (ends : plan.write.outcome = .done)
    (refusedAt : refusal escaping archiver build plan agent.state.config bytes = some refused)
    (removed : refused.leavesTmp plan.remove = some false)
    (fresh : agent.disk.read (tmpPathFor agent.lkgPath) = none ∧
      agent.disk.read (atomicTmpPath agent.lkgPath) = none) :
    ¬TraceLeft escaping archiver build plan bytes etag agent := by
  intro trace
  obtain ⟨_, leftBy, differ⟩ := trace.refused ends
  rw [refusedAt, Option.bind_some, removed] at leftBy
  cases leftBy
  exact differ ⟨congrArg Option.isSome fresh.1, fresh.2⟩

def runningConfig : RuntimeConfig := Config.bootConfig "edge" "cert.pem"

def renewedConfig : RuntimeConfig := Config.bootConfig "edge" "renewed.pem"

/-- A library that archives the two configurations as the payloads with known digests. -/
def bootArchiver : Archiver RuntimeConfig where
  primitives := Pvs.tabulated
  serialize config :=
    if config = runningConfig then .ok [7]
    else if config = renewedConfig then .ok [8]
    else .error (literal "unknown")
  deserialize payload := if payload = [7] then .ok runningConfig else .ok renewedConfig
  digest_size := Pvs.tabulatedArchiver.digest_size
  round_trip config payload written := by
    split at written
    · rename_i running
      cases written
      exact ⟨by decide, congrArg Except.ok running.symm⟩
    · split at written
      · rename_i renewed
        cases written
        exact ⟨by decide, congrArg Except.ok renewed.symm⟩
      · cases written

def runningAgent : ConfigAgent RuntimeConfig Unit :=
  { lkgPath := configPath
    disk := Disk.write ∅ configPath.toText Pvs.smallArtifact
    state := { config := runningConfig, materialized := (), configVersion := none }
    hasCallback := false }

def undisturbed : VerifyPlan :=
  { directory := .done
    write := .allDone
    load := .done
    environment := .done
    materialise := .done
    remove := .done }

def verifyRunning (plan : VerifyPlan) (bytes : Bytes) : Verified Unit VerifiedUpdate :=
  verifyUpdate Config.stringQuoting.guarding bootArchiver (fun _ => some ()) plan bytes
    (checksumForBytes Pvs.tabulated bytes) none none runningAgent

/-- An update that is refused because a reload would not be safe stays behind. -/
theorem refused_update_left_behind :
    runningAgent.disk.read (tmpPathFor configPath) = none ∧
    leftInTmp runningAgent (verifyRunning undisturbed Pvs.otherArtifact) =
      some Pvs.otherArtifact ∧
    ¬LeavesNoTrace Config.stringQuoting.guarding bootArchiver Pvs.otherArtifact
      (checksumForBytes Pvs.tabulated Pvs.otherArtifact) runningAgent
      (verifyRunning undisturbed Pvs.otherArtifact) := by
  have fresh : runningAgent.disk.read (tmpPathFor configPath) = none := by decide +kernel
  have stays : leftInTmp runningAgent (verifyRunning undisturbed Pvs.otherArtifact) =
      some Pvs.otherArtifact := by decide +kernel
  exact ⟨fresh, stays, not_leavesNoTrace_of_left fresh stays⟩

/-- Without its environment an update is refused and removed. -/
theorem unready_update_removed :
    LeavesNoTrace Config.stringQuoting.guarding bootArchiver Pvs.smallArtifact
      (checksumForBytes Pvs.tabulated Pvs.smallArtifact) runningAgent
      (verifyUpdate Config.stringQuoting.guarding bootArchiver (fun _ => some ())
        { undisturbed with environment := .failed 0 } Pvs.smallArtifact
        (checksumForBytes Pvs.tabulated Pvs.smallArtifact) none none runningAgent) := by
  rw [verify_leaves_no_trace_iff]
  have refusedAt : refusal Config.stringQuoting.guarding bootArchiver
      (fun _ => some () : RuntimeConfig → Option Unit)
      { undisturbed with environment := .failed 0 } runningAgent.state.config
      Pvs.smallArtifact = some .environment := by decide +kernel
  exact not_traceLeft_of_removed rfl refusedAt rfl ⟨by decide +kernel, by decide +kernel⟩

end Pavis.Agent
