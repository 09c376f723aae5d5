/-
A configuration on its way from the relay into the agent.

The relay publishes an encoded configuration and serves it. The agent fetches, verifies and
applies it, and its next process starts from it.
-/

import Pavis.Agent.Restart
import Pavis.Protocol.StoredEtags
import Pavis.Relay.CrashRecovery

namespace Pavis.Protocol

open ByteText FaultyDisk Pavis.Agent Pavis.Pvs Pavis.Relay
open Config (RuntimeConfig StringEscaping ensureRuntimeReloadSafe)

variable {Materialized : Type} {serde : Serde} {archiver : Archiver RuntimeConfig}
  {plan : PublishPlan} {relay : RelayRuntimeState} {bytes : Bytes} {now installedAt : Nat}

private theorem served_of_published {primitives : Primitives}
    (published : (relay.publishBytes serde primitives plan bytes now installedAt).isOk = true) :
    let served := (relay.publishBytes serde primitives plan bytes now installedAt).state.inner
    (∃ header, verify primitives bytes = .ok header) ∧ served.artifact.bytes = bytes ∧
      served.artifactChecksum = checksumForBytes primitives bytes ∧ served.version < 2 ^ 64 := by
  obtain ⟨metadata, succeeds⟩ := Result.exists_of_isOk published
  obtain ⟨left, prepared, persisted, continued⟩ := Result.andThen_eq_ok.mp succeeds
  obtain ⟨_, _, installs, same⟩ := Result.andThen_eq_ok.mp continued
  obtain ⟨_, _, rfl⟩ := RelayRuntimeState.publish_of_ok installs
  dsimp only
  generalize (relay.publishBytes serde primitives plan bytes now installedAt).state = after at same
  cases same
  unfold RelayRuntimeState.persist at persisted
  split at persisted
  · cases persisted
  · split at persisted
    · cases persisted
    · rename_i header verified
      dsimp only [RelayRuntimeState.withFiles] at persisted
      split at persisted <;> cases persisted
      exact ⟨⟨header, verified⟩, rfl, rfl, Nat.mod_lt _ (by decide)⟩

private theorem loadBytes_of_encode {config : RuntimeConfig} {header : PvsHeader}
    (encoded : encode archiver config = .ok bytes)
    (verified : verify archiver.primitives bytes = .ok header) :
    loadBytes archiver bytes = .ok config := by
  unfold encode at encoded
  split at encoded
  · cases encoded
  · rename_i payload serialized
    cases encoded
    obtain ⟨archived, read⟩ := archiver.round_trip config payload serialized
    have front := (headerFor_sized archiver.digest_size payload).toBytes_length
    have rest : ((headerFor archiver.primitives payload).toBytes ++ payload).drop headerSize =
        payload := by
      rw [← front, List.drop_left]
    unfold loadBytes
    rw [rest, if_pos archived, read]
    unfold verify at verified
    split at verified
    · cases verified
    · rename_i checked
      rw [checked]

private theorem length_of_verify {primitives : Primitives} {header : PvsHeader}
    (verified : verify primitives bytes = .ok header) :
    bytes.length ≤ headerSize + maxPayloadSize := by
  by_contra long
  rw [verify, verifyBytes, if_neg (by omega), if_pos (by omega)] at verified
  cases verified

/-- What is published runs: the agent receives the bytes with their tag, verifies and applies
them, and runs the configuration. The next process runs it under the same tag, and while it
is the current one the relay does not send it again. -/
theorem published_configuration_runs {escaping : StringEscaping}
    (build : RuntimeConfig → Option Materialized) {config : RuntimeConfig}
    {materialized : Materialized} (agent : ConfigAgent RuntimeConfig Materialized)
    (encoded : encode archiver config = .ok bytes)
    (published :
      (relay.publishBytes serde archiver.primitives plan bytes now installedAt).isOk = true)
    (built : build config = some materialized)
    (safe : ensureRuntimeReloadSafe escaping agent.state.config config = .ok ()) : let served :=
      (relay.publishBytes serde archiver.primitives plan bytes now installedAt).state.inner
    ∃ etag version size update verified running,
      fetchEffect (some (httpReply (build200 served (etagFromChecksum served.artifactChecksum)))) =
        .newArtifact etag version size bytes ∧
      verifyUpdate escaping archiver build undisturbed bytes etag version size agent =
        .ok verified update ∧
      applyUpdate (agentArtifacts archiver build) .calm update verified =
        .ok running (etag, version) ∧
      running.state = ⟨config, materialized, version⟩ ∧
      (∀ state hasCallback, ∃ restarted,
        bootstrapFromLkg archiver build .calm
          { running with state := state, hasCallback := hasCallback } =
            .ok restarted (some etag) ∧
        restarted.state = ⟨config, materialized, state.configVersion⟩) ∧
      ∀ (system : PollSystem) (waitMs : Nat) (response : Relay.Response),
        (system.compare ⟨parseIfNoneMatch (some (ifNoneMatchHeader etag)), waitMs⟩ served).2 =
          .responded response → fetchEffect (some (httpReply response)) = .noUpdate := by
  obtain ⟨⟨header, verified⟩, sameBytes, checksum, version⟩ := served_of_published published
  intro served
  have loaded := loadBytes_of_encode encoded verified
  have canonical := canonical_checksumForBytes archiver.digest_size bytes
  have current : etagFromChecksum served.artifactChecksum =
      checksumForBytes archiver.primitives bytes := by
    rw [checksum, etagFromChecksum_of_canonical canonical]
  have size : served.artifact.bytes.length < 2 ^ 64 := by
    rw [sameBytes]
    exact Nat.lt_of_le_of_lt (length_of_verify verified) (by decide)
  have received := served_artifact_received canonical version size
  rw [sameBytes] at received
  obtain ⟨disk, stored, verifies⟩ := verifyUpdate_undisturbed loaded safe built
    (configVersionNew served.version) (some bytes.length)
  obtain ⟨last, held, applies⟩ := applyUpdate_calm { agent with disk := disk }
    ⟨_, configVersionNew served.version, some bytes.length, _⟩ stored.held loaded built
  refine ⟨_, _, _, _, _, _, current ▸ received, verifies, applies, rfl, ?_, ?_⟩
  · intro state hasCallback
    exact ⟨_, bootstrapFromLkg_calm held loaded built, rfl⟩
  · intro system waitMs response answered
    simp only [PollSystem.compare, canonical.read_by_relay, current, Option.any_some,
      bne_self_eq_false, Bool.false_eq_true, if_false, Option.isNone_some, false_and, if_true]
      at answered
    split at answered <;> cases answered
    rfl

theorem published_configuration_runs_small :
    encode bootArchiver runningConfig = .ok smallArtifact ∧
    ∃ update verified running etag version,
      applyUpdate (agentArtifacts bootArchiver fun _ => some ()) .calm update verified =
        .ok running (etag, version) ∧
      running.state = ⟨runningConfig, (), version⟩ := by
  have encoded : encode bootArchiver runningConfig = .ok smallArtifact := by decide +kernel
  have published : (startedRelay.publishBytes smallSerde bootArchiver.primitives everyStepDone
    smallArtifact 0 0).isOk = true := by decide +kernel
  have safe : ensureRuntimeReloadSafe Config.stringQuoting.guarding runningAgent.state.config
    runningConfig = .ok () := by decide +kernel
  obtain ⟨etag, version, _, update, verified, running, _, _, applies, runs, _⟩ :=
    published_configuration_runs (fun _ => some ()) runningAgent encoded published rfl safe
  exact ⟨encoded, update, verified, running, etag, version, applies, runs⟩

end Pavis.Protocol
