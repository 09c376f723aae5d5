/-
Applying a verified update.

Every step of `apply_update` may fail. The archive format and the construction of
the runtime state are parameters.
-/

import Pavis.Agent.Fsm
import Pavis.Library.FaultyDisk

namespace Pavis.Agent

open ByteText FaultyDisk

/-- A path split as `Path::set_extension` splits it: the extension is what
follows the last dot of the file name. -/
structure LkgPath where
  parent : Text
  fileStem : Text
  extension : Option Text
  plain : ∀ suffix, extension = some suffix → ascii '.' ∉ suffix

def LkgPath.toText (path : LkgPath) : Text :=
  match path.extension with
  | some suffix => path.parent ++ path.fileStem ++ (ascii '.' :: suffix)
  | none => path.parent ++ path.fileStem

def tmpPathFor (path : LkgPath) : Text :=
  path.parent ++ path.fileStem ++ (ascii '.' :: literal "tmp.pvs")

theorem tmpPathFor_ne (path : LkgPath) : path.toText ≠ tmpPathFor path := by
  intro same
  unfold LkgPath.toText tmpPathFor at same
  cases extensionAt : path.extension with
  | none =>
    rw [extensionAt] at same
    have lengths := congrArg List.length same
    simp at lengths
  | some suffix =>
    rw [extensionAt] at same
    have tails := List.append_cancel_left same
    rw [List.cons.injEq] at tails
    apply path.plain suffix extensionAt
    rw [tails.2]
    decide

/-- What the runtime does with an artifact: `load` decodes its bytes, and
`build` materialises the configuration. -/
structure Artifacts (Config Materialized : Type) where
  decode : Bytes → Option Config
  build : Config → Option Materialized

structure RuntimeState (Config Materialized : Type) where
  config : Config
  materialized : Materialized
  configVersion : Option ConfigVersion
  deriving DecidableEq

structure ConfigAgent (Config Materialized : Type) where
  lkgPath : LkgPath
  disk : Disk Text
  state : RuntimeState Config Materialized
  hasCallback : Bool

inductive ApplyError where
  | load
  | materialise
  | rename
  | reload
  deriving DecidableEq

structure ApplyPlan where
  load : Verdict
  materialise : Verdict
  remove : Verdict
  rename : Verdict
  reload : Verdict
  deriving DecidableEq

section
variable {Config Materialized : Type} (artifacts : Artifacts Config Materialized)

abbrev Applied (Config Materialized α : Type) :=
  Result (ConfigAgent Config Materialized) ApplyError α

/-- The file may be unreadable although it is there. -/
def load (verdict : Verdict) (reason : ApplyError) (path : Text)
    (agent : ConfigAgent Config Materialized) : Applied Config Materialized Config :=
  match verdict with
  | .crashed _ => .crashed agent
  | .failed _ => .error agent reason
  | .done =>
    match (agent.disk.read path).bind artifacts.decode with
    | some config => .ok agent config
    | none => .error agent reason

def RuntimeState.fromConfig (verdict : Verdict) (config : Config)
    (agent : ConfigAgent Config Materialized) :
    Applied Config Materialized (RuntimeState Config Materialized) :=
  match verdict with
  | .crashed _ => .crashed agent
  | .failed _ => .error agent .materialise
  | .done =>
    match artifacts.build config with
    | some materialized =>
      .ok agent { config := config, materialized := materialized, configVersion := none }
    | none => .error agent .materialise

def ConfigAgent.withDisk {ε α : Type} (agent : ConfigAgent Config Materialized) :
    Result (Disk Text) ε α → Result (ConfigAgent Config Materialized) ε α
  | .ok disk value => .ok { agent with disk := disk } value
  | .error disk reason => .error { agent with disk := disk } reason
  | .crashed disk => .crashed { agent with disk := disk }

/-- The temporary file is removed before an error is returned; a failing removal is
ignored. -/
def discardTmp {ε α : Type} (verdict : Verdict) (path : Text) (reason : ε)
    (agent : ConfigAgent Config Materialized) : Result (ConfigAgent Config Materialized) ε α :=
  (agent.withDisk (removeFile verdict reason path agent.disk)).ignoreError.andThen
    fun agent _ => .error agent reason

def loadOrDiscard (plan : ApplyPlan) (path : Text) (agent : ConfigAgent Config Materialized) :
    Applied Config Materialized Config :=
  match load artifacts plan.load .load path agent with
  | .ok agent config => .ok agent config
  | .error agent reason => discardTmp plan.remove path reason agent
  | .crashed agent => .crashed agent

/-- The callback receives the configuration loaded back from the renamed file. -/
def runCallback (verdict : Verdict) (agent : ConfigAgent Config Materialized) :
    Applied Config Materialized Unit :=
  if agent.hasCallback then
    (load artifacts verdict .reload agent.lkgPath.toText agent).andThen fun agent _ => .ok agent ()
  else .ok agent ()

def applyUpdate (plan : ApplyPlan) (update : VerifiedUpdate)
    (agent : ConfigAgent Config Materialized) :
    Applied Config Materialized (Text × Option ConfigVersion) :=
  (loadOrDiscard artifacts plan update.tmpPath agent).andThen fun agent config =>
    (RuntimeState.fromConfig artifacts plan.materialise config agent).andThen fun agent state =>
      let state := { state with configVersion := update.version }
      (agent.withDisk (renameFile plan.rename .rename update.tmpPath agent.lkgPath.toText
        agent.disk)).andThen fun agent _ =>
          let agent := { agent with state := state }
          (runCallback artifacts plan.reload agent).andThen fun agent _ =>
            .ok agent (update.etag, update.version)

/-- The bytes an apply would install and the state it would publish, read off
the agent before the call. -/
def ConfigAgent.candidate (agent : ConfigAgent Config Materialized) (update : VerifiedUpdate) :
    Option (Bytes × RuntimeState Config Materialized) := do
  let bytes ← agent.disk.read update.tmpPath
  let config ← artifacts.decode bytes
  let materialized ← artifacts.build config
  return (bytes,
    { config := config, materialized := materialized, configVersion := update.version })

/-- Success installs the update, an error leaves everything in place. -/
def AppliedAtomically (update : VerifiedUpdate) (agent : ConfigAgent Config Materialized) :
    Applied Config Materialized (Text × Option ConfigVersion) → Prop
  | .ok after _ => ∃ bytes state, agent.candidate artifacts update = some (bytes, state) ∧
      after.state = state ∧ after.disk.read agent.lkgPath.toText = some bytes
  | .error after _ => after.state = agent.state ∧
      after.disk.read agent.lkgPath.toText = agent.disk.read agent.lkgPath.toText
  | .crashed _ => True

/-- The renamed file cannot be read back for the callback, and it was not
already the running one. -/
def ReloadFails (plan : ApplyPlan) (update : VerifiedUpdate)
    (agent : ConfigAgent Config Materialized) : Prop :=
  plan.load = .done ∧ plan.materialise = .done ∧ plan.rename = .done ∧
    agent.hasCallback = true ∧ (∃ progress, plan.reload = .failed progress) ∧
    ∃ bytes state, agent.candidate artifacts update = some (bytes, state) ∧
      ¬(agent.state = state ∧ agent.disk.read agent.lkgPath.toText = some bytes)

/-! ### Steps that stop the apply -/

/-- The call is over, and neither the published state nor the last known good
file has changed. -/
def Stops {α : Type} (agent : ConfigAgent Config Materialized) :
    Applied Config Materialized α → Prop
  | .ok _ _ => False
  | .error after _ => after.state = agent.state ∧
      after.disk.read agent.lkgPath.toText = agent.disk.read agent.lkgPath.toText
  | .crashed _ => True

variable {agent : ConfigAgent Config Materialized}

theorem Stops.andThen {α β : Type} {result : Applied Config Materialized α}
    (stops : Stops agent result)
    (next : ConfigAgent Config Materialized → α → Applied Config Materialized β) :
    Stops agent (result.andThen next) := by
  cases result with
  | ok => exact stops.elim
  | error => exact stops
  | crashed => trivial

variable {artifacts}

variable {update : VerifiedUpdate}

theorem Stops.appliedAtomically {result : Applied Config Materialized (Text × Option ConfigVersion)}
    (stops : Stops agent result) : AppliedAtomically artifacts update agent result := by
  cases result with
  | ok => exact stops.elim
  | error => exact stops
  | crashed => trivial

private theorem discardTmp_stops {α : Type} (verdict : Verdict) (path : Text) (reason : ApplyError)
    (agent : ConfigAgent Config Materialized) (different : agent.lkgPath.toText ≠ path) :
    Stops agent (discardTmp verdict path reason agent : Applied Config Materialized α) := by
  cases verdict with
  | done => exact ⟨rfl, Disk.read_remove_other agent.disk different⟩
  | failed => exact ⟨rfl, rfl⟩
  | crashed => trivial

private theorem loadOrDiscard_cases (plan : ApplyPlan) (path : Text)
    (agent : ConfigAgent Config Materialized) (different : agent.lkgPath.toText ≠ path) :
    (∃ bytes config, plan.load = .done ∧ agent.disk.read path = some bytes ∧
      artifacts.decode bytes = some config ∧
      loadOrDiscard artifacts plan path agent = .ok agent config) ∨
    (Stops agent (loadOrDiscard artifacts plan path agent) ∧
      (plan.load ≠ .done ∨ (agent.disk.read path).bind artifacts.decode = none)) := by
  cases loadAt : plan.load with
  | crashed =>
    refine Or.inr ⟨?_, Or.inl (by simp)⟩
    simp only [loadOrDiscard, load, loadAt]
    trivial
  | failed =>
    refine Or.inr ⟨?_, Or.inl (by simp)⟩
    simp only [loadOrDiscard, load, loadAt]
    exact discardTmp_stops plan.remove path .load agent different
  | done =>
    cases decoded : (agent.disk.read path).bind artifacts.decode with
    | none =>
      refine Or.inr ⟨?_, Or.inr rfl⟩
      simp only [loadOrDiscard, load, loadAt, decoded]
      exact discardTmp_stops plan.remove path .load agent different
    | some config =>
      obtain ⟨bytes, found, decodes⟩ := Option.bind_eq_some_iff.mp decoded
      refine Or.inl ⟨bytes, config, rfl, found, decodes, ?_⟩
      simp only [loadOrDiscard, load, loadAt, decoded]

private theorem fromConfig_cases (verdict : Verdict) (config : Config)
    (agent : ConfigAgent Config Materialized) :
    (∃ materialized, verdict = .done ∧ artifacts.build config = some materialized ∧
      RuntimeState.fromConfig artifacts verdict config agent =
        .ok agent { config := config, materialized := materialized, configVersion := none }) ∨
    (Stops agent (RuntimeState.fromConfig artifacts verdict config agent) ∧
      (verdict ≠ .done ∨ artifacts.build config = none)) := by
  cases verdict with
  | crashed => exact Or.inr ⟨trivial, Or.inl (by simp)⟩
  | failed => exact Or.inr ⟨⟨rfl, rfl⟩, Or.inl (by simp)⟩
  | done =>
    cases built : artifacts.build config with
    | none =>
      refine Or.inr ⟨?_, Or.inr rfl⟩
      simp only [RuntimeState.fromConfig, built]
      exact ⟨rfl, rfl⟩
    | some materialized =>
      refine Or.inl ⟨materialized, rfl, rfl, ?_⟩
      simp only [RuntimeState.fromConfig, built]

private theorem rename_cases (verdict : Verdict) (source target : Text)
    (agent : ConfigAgent Config Materialized) :
    (verdict = .done ∧
      agent.withDisk (renameFile verdict ApplyError.rename source target agent.disk) =
        .ok { agent with disk := agent.disk.move source target } ()) ∨
    (verdict ≠ .done ∧
      Stops agent (agent.withDisk (renameFile verdict .rename source target agent.disk))) := by
  cases verdict with
  | done => exact Or.inl ⟨rfl, rfl⟩
  | failed => exact Or.inr ⟨by simp, rfl, rfl⟩
  | crashed => exact Or.inr ⟨by simp, trivial⟩

private theorem stopped_iff {plan : ApplyPlan}
    {result : Applied Config Materialized (Text × Option ConfigVersion)}
    (stops : Stops agent result) (unreached : ¬ReloadFails artifacts plan update agent) :
    AppliedAtomically artifacts update agent result ↔ ¬ReloadFails artifacts plan update agent :=
  iff_of_true stops.appliedAtomically unreached

/-- From the rename on, the file and the state are the update's, and only a
failing reload turns the call into an error. -/
theorem installed_iff {plan : ApplyPlan} {bytes : Bytes} {config : Config}
    {state : RuntimeState Config Materialized} (loads : plan.load = .done)
    (builds : plan.materialise = .done) (renames : plan.rename = .done)
    (decodes : artifacts.decode bytes = some config)
    (candidate : agent.candidate artifacts update = some (bytes, state)) {disk : Disk Text}
    (installed : disk.read agent.lkgPath.toText = some bytes) :
    AppliedAtomically artifacts update agent
        ((runCallback artifacts plan.reload { agent with disk := disk, state := state }).andThen
          fun agent _ => .ok agent (update.etag, update.version)) ↔
      ¬ReloadFails artifacts plan update agent := by
  have reloaded : ((disk.read agent.lkgPath.toText).bind artifacts.decode) = some config := by
    rw [installed]
    exact decodes
  have succeeds (after : ConfigAgent Config Materialized)
      (unchanged : after = { agent with disk := disk, state := state }) :
      AppliedAtomically artifacts update agent (.ok after (update.etag, update.version)) := by
    subst unchanged
    exact ⟨bytes, state, candidate, rfl, installed⟩
  cases callbackAt : agent.hasCallback with
  | false =>
    refine iff_of_true ?_ (by simp [ReloadFails, callbackAt])
    simp only [runCallback, Bool.false_eq_true, if_false, Result.andThen_ok]
    exact succeeds _ (by rw [callbackAt])
  | true =>
    cases reloadAt : plan.reload with
    | done =>
      refine iff_of_true ?_ (by simp [ReloadFails, reloadAt])
      simp only [runCallback, if_true, load, reloaded, Result.andThen_ok]
      exact succeeds _ (by rw [callbackAt])
    | crashed =>
      refine iff_of_true ?_ (by simp [ReloadFails, reloadAt])
      simp only [runCallback, if_true, load, Result.andThen_crashed]
      trivial
    | failed progress =>
      simp only [runCallback, if_true, load, Result.andThen_error, AppliedAtomically,
        installed]
      constructor
      · intro unchanged swapped
        obtain ⟨sameState, sameFile⟩ := unchanged
        obtain ⟨_, _, _, _, _, otherBytes, otherState, other, changed⟩ := swapped
        rw [candidate] at other
        cases other
        exact changed ⟨sameState.symm, sameFile.symm⟩
      · intro harmless
        by_contra changed
        refine harmless ⟨loads, builds, renames, callbackAt, ⟨progress, reloadAt⟩, bytes, state,
          candidate, ?_⟩
        intro unchanged
        obtain ⟨sameState, sameFile⟩ := unchanged
        exact changed ⟨sameState.symm, sameFile.symm⟩

theorem apply_atomic_iff (plan : ApplyPlan) (update : VerifiedUpdate)
    (agent : ConfigAgent Config Materialized)
    (verified : update.tmpPath = tmpPathFor agent.lkgPath) :
    AppliedAtomically artifacts update agent (applyUpdate artifacts plan update agent) ↔
      ¬ReloadFails artifacts plan update agent := by
  have different : agent.lkgPath.toText ≠ update.tmpPath := by
    rw [verified]
    exact tmpPathFor_ne agent.lkgPath
  unfold applyUpdate
  rcases loadOrDiscard_cases plan update.tmpPath agent different with
    ⟨bytes, config, loads, found, decodes, runs⟩ | ⟨stops, cause⟩
  · rw [runs, Result.andThen_ok]
    rcases fromConfig_cases plan.materialise config agent with
      ⟨materialized, builds, built, runs⟩ | ⟨stops, cause⟩
    · rw [runs, Result.andThen_ok]
      rcases rename_cases plan.rename update.tmpPath agent.lkgPath.toText agent with
        ⟨renames, runs⟩ | ⟨unrenamed, stops⟩
      · simp only [runs, Result.andThen_ok]
        refine installed_iff loads builds renames decodes ?_
          (Disk.read_move_target agent.disk found)
        simp [ConfigAgent.candidate, found, decodes, built]
      · apply stopped_iff (stops.andThen _)
        intro swapped
        obtain ⟨_, _, renames, _⟩ := swapped
        exact unrenamed renames
    · apply stopped_iff (stops.andThen _)
      intro swapped
      obtain ⟨_, builds, _, _, _, otherBytes, state, candidate, _⟩ := swapped
      rcases cause with unbuilt | missing
      · exact unbuilt builds
      · simp [ConfigAgent.candidate, found, decodes, missing] at candidate
  · apply stopped_iff (stops.andThen _)
    intro swapped
    obtain ⟨loads, _, _, _, _, otherBytes, state, candidate, _⟩ := swapped
    rcases cause with unloaded | missing
    · exact unloaded loads
    · obtain ⟨bytes, found, rest⟩ := Option.bind_eq_some_iff.mp candidate
      obtain ⟨config, decodes, _⟩ := Option.bind_eq_some_iff.mp rest
      simp [found, decodes] at missing

end

def magicOnly : Artifacts Bytes Unit :=
  { decode := fun bytes =>
      if bytes.take 4 = literal "PAVS" then some (bytes.drop 4) else none
    build := fun _ => some () }

def configPath : LkgPath :=
  { parent := literal "/var/lib/pavis/"
    fileStem := literal "config"
    extension := some (literal "pvs")
    plain := by
      intro suffix same
      cases same
      decide }

def verifiedUpdate : VerifiedUpdate :=
  { etag := literal "sha256:b"
    version := none
    size := none
    tmpPath := tmpPathFor configPath }

def agentHolding (bytes : Bytes) : ConfigAgent Bytes Unit :=
  { lkgPath := configPath
    disk := (Disk.write ∅ configPath.toText (literal "PAVS old")).write
      (tmpPathFor configPath) bytes
    state := { config := literal " old", materialized := (), configVersion := none }
    hasCallback := true }

def unreadableAfterRename : ApplyPlan :=
  { load := .done, materialise := .done, remove := .done, rename := .done, reload := .failed 0 }

theorem failed_reload_keeps_new_state :
    ∃ after, applyUpdate magicOnly unreadableAfterRename verifiedUpdate
        (agentHolding (literal "PAVS new")) = .error after .reload ∧
      after.state.config = literal " new" ∧
      after.disk.read configPath.toText = some (literal "PAVS new") ∧
      ¬AppliedAtomically magicOnly verifiedUpdate (agentHolding (literal "PAVS new"))
        (applyUpdate magicOnly unreadableAfterRename verifiedUpdate
          (agentHolding (literal "PAVS new"))) := by
  refine ⟨_, rfl, rfl, by decide, ?_⟩
  intro unchanged
  obtain ⟨sameState, _⟩ := unchanged
  have sameConfig := congrArg RuntimeState.config sameState
  revert sameConfig
  decide

/-- The new file is loaded, renamed and read back. An empty one is refused by the load, so
nothing is renamed. -/
theorem apply_atomic_iff_newFile :
    (∃ after result, applyUpdate magicOnly { unreadableAfterRename with reload := .done }
          verifiedUpdate (agentHolding (literal "PAVS new")) = .ok after result ∧
        after.state.config = literal " new" ∧
        AppliedAtomically magicOnly verifiedUpdate (agentHolding (literal "PAVS new"))
          (.ok after result)) ∧
      AppliedAtomically magicOnly verifiedUpdate (agentHolding [])
        (applyUpdate magicOnly unreadableAfterRename verifiedUpdate (agentHolding [])) := by
  constructor
  · refine ⟨_, _, rfl, rfl, ?_⟩
    apply (apply_atomic_iff { unreadableAfterRename with reload := .done } verifiedUpdate
      (agentHolding (literal "PAVS new")) rfl).mpr
    rintro ⟨_, _, _, _, ⟨_, failed⟩, _⟩
    cases failed
  · apply (apply_atomic_iff unreadableAfterRename verifiedUpdate (agentHolding []) rfl).mpr
    rintro ⟨_, _, _, _, _, bytes, state, found, _⟩
    have nothing : (agentHolding []).candidate magicOnly verifiedUpdate = none := by decide
    exact nomatch nothing.symm.trans found

end Pavis.Agent
