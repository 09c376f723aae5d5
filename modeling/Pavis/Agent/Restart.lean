/-
The agent from one process to the next.

A new process begins with `bootstrap_from_lkg`, which runs the last known good file if it can.
-/

import Pavis.Agent.VerifyUpdate

namespace Pavis.Agent

open ByteText FaultyDisk
open Config (RuntimeConfig StringEscaping ensureRuntimeReloadSafe)
open Pvs (Archiver PvsError checksumForBytes verify verifyBytes)

inductive RestartError where
  | read
  | invalid (reason : PvsError)
  | load (reason : PvsError)
  | environment
  | materialise
  deriving DecidableEq

/-- A file that cannot be examined counts as missing. -/
structure RestartPlan where
  found : Bool
  read : Verdict
  load : Verdict
  environment : Verdict
  materialise : Verdict

def RestartPlan.calm : RestartPlan :=
  { found := true, read := .done, load := .done, environment := .done, materialise := .done }

def ApplyPlan.calm : ApplyPlan :=
  { load := .done, materialise := .done, remove := .done, rename := .done, reload := .done }

section

variable {Materialized : Type} (escaping : StringEscaping) (archiver : Archiver RuntimeConfig)
  (build : RuntimeConfig → Option Materialized)

/-- Returns the tag of the file that runs now, if one was there. The version is the one the
process was started with. -/
def bootstrapFromLkg (plan : RestartPlan) (agent : ConfigAgent RuntimeConfig Materialized) :
    Result (ConfigAgent RuntimeConfig Materialized) RestartError (Option Text) :=
  match if plan.found then agent.disk.read agent.lkgPath.toText else none with
  | none => .ok agent none
  | some bytes =>
    (inert plan.read .read agent).andThen fun agent _ =>
      match verify archiver.primitives bytes with
      | .error reason => .error agent (.invalid reason)
      | .ok _ =>
        (inert plan.load (.load .io) agent).andThen fun agent _ =>
          match loadBytes archiver bytes with
          | .error reason => .error agent (.load reason)
          | .ok config =>
            (inert plan.environment .environment agent).andThen fun agent _ =>
              (inert plan.materialise .materialise agent).andThen fun agent _ =>
                match build config with
                | none => .error agent .materialise
                | some materialized =>
                  .ok { agent with state := ⟨config, materialized, agent.state.configVersion⟩ }
                    (some (checksumForBytes archiver.primitives bytes))

def agentArtifacts : Artifacts RuntimeConfig Materialized :=
  { decode := fun bytes => (loadBytes archiver bytes).toOption, build := build }

variable {escaping archiver build} {agent : ConfigAgent RuntimeConfig Materialized} {bytes : Bytes}
  {config : RuntimeConfig} {materialized : Materialized}

theorem verify_of_loadBytes (loaded : loadBytes archiver bytes = .ok config) :
    ∃ header, verify archiver.primitives bytes = .ok header := by
  unfold loadBytes at loaded
  cases checked : verifyBytes archiver.primitives bytes with
  | error =>
    rw [checked] at loaded
    cases loaded
  | ok found =>
    rw [checked] at loaded
    dsimp only at loaded
    split at loaded
    · rename_i archived
      rw [← (Pvs.framed_of_verifyBytes checked).2.1] at archived
      refine ⟨found.1, ?_⟩
      rw [verify, checked]
      exact if_pos archived
    · cases loaded

theorem verifyUpdate_undisturbed (loaded : loadBytes archiver bytes = .ok config)
    (safe : ensureRuntimeReloadSafe escaping agent.state.config config = .ok ())
    (built : build config = some materialized) (version : Option ConfigVersion)
    (size : Option Nat) :
    ∃ disk, Stored bytes agent disk ∧
      verifyUpdate escaping archiver build undisturbed bytes
        (checksumForBytes archiver.primitives bytes) version size agent =
      .ok { agent with disk := disk }
        ⟨checksumForBytes archiver.primitives bytes, version, size, tmpPathFor agent.lkgPath⟩ := by
  obtain ⟨header, verified⟩ := verify_of_loadBytes loaded
  rcases storeTmp_cases undisturbed bytes agent with ⟨⟨_, fails⟩, _⟩ | ⟨⟨_, fails⟩, _⟩ |
    ⟨_, ⟨_, disk, stored, runs⟩ | ⟨⟨_, fails⟩, _⟩ | ⟨⟨_, fails⟩, _⟩⟩
  all_goals try cases fails
  refine ⟨disk, stored, ?_⟩
  simp only [verifyUpdate, verified, ne_eq, not_true, if_false, runs, Result.andThen_ok]
  simp only [checkTmp, loadTmp, undisturbed, stored.held, loaded, Result.andThen_ok, safe,
    validateRuntimeEnv, materialiseOnce, built, Option.isSome_some, if_true]

theorem applyUpdate_calm (agent : ConfigAgent RuntimeConfig Materialized)
    (update : VerifiedUpdate) (held : agent.disk.read update.tmpPath = some bytes)
    (loaded : loadBytes archiver bytes = .ok config) (built : build config = some materialized) :
    ∃ disk, disk.read agent.lkgPath.toText = some bytes ∧
      applyUpdate (agentArtifacts archiver build) .calm update agent =
        .ok { agent with disk := disk, state := ⟨config, materialized, update.version⟩ }
          (update.etag, update.version) := by
  have moved : (agent.disk.move update.tmpPath agent.lkgPath.toText).read agent.lkgPath.toText =
    some bytes := Disk.read_move_target agent.disk held
  refine ⟨_, moved, ?_⟩
  have decoded : (agentArtifacts archiver build).decode bytes = some config := by
    simp only [agentArtifacts, loaded]
    rfl
  have made : (agentArtifacts archiver build).build config = some materialized := built
  simp only [applyUpdate, loadOrDiscard, load, ApplyPlan.calm, held, Option.bind_some, decoded,
    Result.andThen_ok, RuntimeState.fromConfig, made, ConfigAgent.withDisk, renameFile, perform,
    runCallback, moved]
  cases agent.hasCallback <;> rfl

theorem bootstrapFromLkg_calm (held : agent.disk.read agent.lkgPath.toText = some bytes)
    (loaded : loadBytes archiver bytes = .ok config) (built : build config = some materialized) :
    bootstrapFromLkg archiver build .calm agent =
      .ok { agent with state := ⟨config, materialized, agent.state.configVersion⟩ }
        (some (checksumForBytes archiver.primitives bytes)) := by
  obtain ⟨header, verified⟩ := verify_of_loadBytes loaded
  simp only [bootstrapFromLkg, RestartPlan.calm, if_true, held, verified, loaded, built, inert,
    perform, Result.andThen_ok]

end

end Pavis.Agent
