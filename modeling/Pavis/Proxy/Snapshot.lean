/-
A request and the runtime state it has loaded.

A request keeps a reference to the state that was current when it was filtered.
Here it is seen alone with that state.
-/

import Pavis.Proxy.Lifecycle

namespace Pavis.Proxy

open ByteText Config LabelledRun State Upstream
open Routing (HttpMethod)
open RequestSystem (advance setManager clusterAt)

def aloneRef (ref : ClusterRef) : ClusterRef := { ref with state := 0 }

def RequestContext.alone (ctx : RequestContext) : RequestContext :=
  { ctx with
    poolPermit := ctx.poolPermit.map aloneRef
    circuitBreakerPermit := ctx.circuitBreakerPermit.map aloneRef
    runtimeState := ctx.runtimeState.map fun _ => 0 }

def Stage.alone : Stage → Stage
  | .waitingPool cluster => .waitingPool (aloneRef cluster)
  | .waitingBreaker cluster => .waitingBreaker (aloneRef cluster)
  | stage => stage

/-- The request with the state at one index and no other. -/
def RequestSystem.alone (index : Nat) (system : RequestSystem) : RequestSystem :=
  { system with
    states := system.states[index]?.toList
    ctx := system.ctx.alone
    stage := system.stage.alone }

/-- The actions that show in the view. -/
def RequestAction.alone (index : Nat) : RequestAction → Option RequestAction
  | .store _ => none
  | .perform other name call readings =>
    if other = index then some (.perform 0 name call readings) else none
  | action => some action

namespace RequestContext

variable (ctx : RequestContext)

theorem alone_retryCtx : ctx.alone.retryCtx = ctx.retryCtx := rfl

theorem alone_canReplay : ctx.alone.canReplay = ctx.canReplay := rfl

theorem alone_failsOnNonReplayable :
    ctx.alone.failsOnNonReplayable = ctx.failsOnNonReplayable := rfl

private theorem alone_beginning : ctx.alone.beginning = ctx.beginning.alone := by
  unfold beginning
  have same : ctx.alone.isRetrying = ctx.isRetrying := rfl
  rw [same]
  split <;> rfl

private theorem alone_poolRejected (context : Text) (now : Instant) :
    ctx.alone.poolRejected context now =
      ((ctx.poolRejected context now).1.alone, (ctx.poolRejected context now).2) := by
  unfold poolRejected
  rw [ctx.alone_retryCtx]
  cases ctx.retryCtx with
  | none => rfl
  | some =>
    dsimp only
    split <;> rfl

private theorem alone_failToConnect (method : HttpMethod) (error : ProxyError) (now : Instant) :
    ctx.alone.failToConnect method error now =
      ((ctx.failToConnect method error now).1.alone, (ctx.failToConnect method error now).2) := by
  unfold failToConnect
  rw [ctx.alone_retryCtx]
  cases ctx.retryCtx with
  | none => rfl
  | some =>
    dsimp only
    split
    · rw [alone_canReplay, alone_failsOnNonReplayable]
      split
      · rfl
      · split <;> rfl
    · rfl

private theorem alone_errorWhileProxy (method : HttpMethod) (error : ProxyError)
    (clientReused truncated : Bool) (now : Instant) :
    ctx.alone.errorWhileProxy method error clientReused truncated now =
      ((ctx.errorWhileProxy method error clientReused truncated now).1.alone,
        (ctx.errorWhileProxy method error clientReused truncated now).2) := by
  unfold errorWhileProxy
  split
  · rfl
  · rw [ctx.alone_retryCtx]
    cases ctx.retryCtx with
    | none => rfl
    | some =>
      dsimp only
      split <;> rfl

private theorem alone_responseFilter (method : HttpMethod) (status : StatusCode) (now : Instant) :
    ctx.alone.responseFilter method status now =
      ((ctx.responseFilter method status now).1.alone,
        (ctx.responseFilter method status now).2) := by
  unfold responseFilter
  rw [ctx.alone_retryCtx]
  cases ctx.retryCtx with
  | none => rfl
  | some =>
    dsimp only
    split
    · rw [alone_canReplay, alone_failsOnNonReplayable]
      split
      · rfl
      · split <;> rfl
    · rfl

end RequestContext

def aloneResult (index : Nat) (result : RequestSystem × Option ProxyError) :
    RequestSystem × Option ProxyError :=
  (result.1.alone index, result.2)

variable {index : Nat}

private theorem clusterAt_alone {ref : ClusterRef} (held : ref.state = index)
    (states : List MaterializedRuntimeConfig) :
    clusterAt states[index]?.toList (aloneRef ref) =
      clusterAt states ref := by
  unfold clusterAt aloneRef
  rw [held]
  cases states[index]? <;> rfl

theorem setManager_alone (states : List MaterializedRuntimeConfig) (index : Nat)
    (manager : Manager) :
    (setManager states index manager)[index]?.toList =
      setManager states[index]?.toList 0 manager := by
  unfold setManager
  rw [List.getElem?_modify_eq]
  cases states[index]? <;> rfl

theorem setManager_elsewhere (states : List MaterializedRuntimeConfig) {other : Nat}
    (elsewhere : other ≠ index) (manager : Manager) :
    (setManager states other manager)[index]? = states[index]? := by
  unfold setManager
  rw [List.getElem?_modify]
  simp only [if_neg elsewhere]
  exact Option.map_id'

namespace RequestSystem

variable {system : RequestSystem} {index : Nat}

theorem alone_state (ref : ClusterRef) (held : ref.state = index) :
    (system.alone index).states[(aloneRef ref).state]? = system.states[ref.state]? := by
  rw [held]
  change system.states[index]?.toList[0]? = _
  cases system.states[index]? <;> rfl

private theorem alone_beginAttempt (loaded : system.ctx.runtimeState = some index) (now : Instant) :
    (system.alone index).beginAttempt now = aloneResult index (system.beginAttempt now) := by
  unfold beginAttempt
  dsimp only
  have names : (system.alone index).ctx.upstreamName = system.ctx.upstreamName := rfl
  have loads : (system.alone index).ctx.runtimeState = some 0 := by
    change system.ctx.runtimeState.map _ = _
    rw [loaded]
    rfl
  rw [names, loads, loaded]
  cases system.ctx.upstreamName with
  | none => rfl
  | some name =>
    let ref : ClusterRef := { state := index, name := name }
    have found : clusterAt (system.alone index).states { state := 0, name := name } =
        clusterAt system.states ref :=
      clusterAt_alone (rfl : ref.state = index) system.states
    dsimp only
    rw [found]
    cases clusterAt system.states ref with
    | none => rfl
    | some =>
      have refusal : (system.alone index).ctx.retryRefusal now =
          system.ctx.retryRefusal now := rfl
      have begun : (system.alone index).ctx.beginning = system.ctx.beginning.alone :=
        system.ctx.alone_beginning
      dsimp only
      rw [refusal, begun]
      cases system.ctx.retryRefusal now with
      | none | some => rfl

private theorem alone_poolAnswers (ref : ClusterRef) (answer : PoolAnswer) (now : Instant) :
    (system.alone index).poolAnswers (aloneRef ref) answer now =
      aloneResult index (system.poolAnswers ref answer now) := by
  have rejects := system.ctx.alone_poolRejected
  cases answer with
  | granted | closed => rfl
  | queueFull | queueTimeout =>
    change (system.alone index).refuse (system.ctx.alone.poolRejected _ now).1
      (system.ctx.alone.poolRejected _ now).2 = _
    rw [rejects]
    rfl

theorem breakerPermit_alone (ref : ClusterRef) (cluster : Cluster) :
    breakerPermit (aloneRef ref) cluster = (breakerPermit ref cluster).map aloneRef := by
  unfold breakerPermit
  cases cluster.config.circuitBreaker <;> rfl

private theorem alone_connect {ref : ClusterRef} (held : ref.state = index) (cluster : Cluster)
    (state : MaterializedRuntimeConfig) (draw : Nat) (readings : Readings) :
    (system.alone index).connect (aloneRef ref) cluster state draw readings =
      aloneResult index (system.connect ref cluster state draw readings) := by
  unfold connect
  dsimp only
  have same : (system.alone index).ctx.toRouterContext = system.ctx.toRouterContext := rfl
  have states : setManager (system.alone index).states (aloneRef ref).state
      (upstreamPeer state.upstreamManager system.ctx.toRouterContext true draw readings).manager =
      (setManager system.states ref.state (upstreamPeer state.upstreamManager
        system.ctx.toRouterContext true draw readings).manager)[index]?.toList := by
    rw [held, setManager_alone]
    rfl
  rw [same, states, breakerPermit_alone]
  cases (upstreamPeer state.upstreamManager system.ctx.toRouterContext true draw
      readings).forwarded with
  | none => rfl
  | some forwarded =>
    dsimp only
    cases forwarded.peer with
    | error | ok => rfl

private theorem alone_breakerAnswers {ref : ClusterRef} (held : ref.state = index) (granted : Bool)
    (draw : Nat) (readings : Readings) :
    (system.alone index).breakerAnswers (aloneRef ref) granted draw readings =
      (system.breakerAnswers ref granted draw readings).map (aloneResult index) := by
  unfold breakerAnswers
  rw [alone_state ref held]
  cases system.states[ref.state]? with
  | none => rfl
  | some state =>
    have named : (aloneRef ref).name = ref.name := rfl
    dsimp only
    rw [named]
    cases state.upstreamManager.get ref.name with
    | none => rfl
    | some =>
      dsimp only
      rw [alone_connect held, breakerPermit_alone, Option.isSome_map]
      split
      · rfl
      · split <;> rfl

private theorem alone_responseFilter (status : StatusCode) (now : Instant) :
    (system.alone index).responseFilter status now =
      aloneResult index (system.responseFilter status now) := by
  unfold responseFilter
  have filtered : (system.alone index).ctx.responseFilter (system.alone index).method status now =
      ((system.ctx.responseFilter system.method status now).1.alone,
        (system.ctx.responseFilter system.method status now).2) :=
    system.ctx.alone_responseFilter system.method status now
  rw [filtered]
  cases system.ctx.responseFilter system.method status now with
  | mk ctx raised =>
    cases raised with
    | none | some => rfl

theorem alone_fail {result shown : RequestContext × ProxyError}
    (same : shown = (result.1.alone, result.2)) :
    (system.alone index).fail shown = aloneResult index (system.fail result) := by
  rw [same]
  rfl

private theorem alone_cluster (system : RequestSystem) :
    (system.alone index).ctx.cluster = system.ctx.cluster.map aloneRef := by
  unfold RequestContext.cluster
  have loads : (system.alone index).ctx.runtimeState = system.ctx.runtimeState.map fun _ => 0 := rfl
  have names : (system.alone index).ctx.upstreamName = system.ctx.upstreamName := rfl
  rw [loads, names]
  cases system.ctx.runtimeState with
  | none => rfl
  | some =>
    cases system.ctx.upstreamName with
    | none | some => rfl

private theorem alone_logging (held : ∀ ref, system.ctx.cluster = some ref → ref.state = index)
    (failed : Bool) (written : Option StatusCode) (readings : Readings) :
    (system.alone index).logging failed written readings =
      (system.logging failed written readings).alone index := by
  unfold logging
  dsimp only
  have endpoint : (system.alone index).ctx.upstreamEndpoint = system.ctx.upstreamEndpoint := rfl
  rw [alone_cluster, endpoint]
  cases routed : system.ctx.cluster with
  | none => rfl
  | some ref =>
    have at_index := held ref routed
    cases system.ctx.upstreamEndpoint with
    | none => rfl
    | some =>
      simp only [Option.map_some]
      rw [alone_state ref at_index]
      cases system.states[ref.state]? with
      | none => rfl
      | some state =>
        have named : (aloneRef ref).name = ref.name := rfl
        dsimp only
        rw [named]
        cases state.upstreamManager.get ref.name with
        | none => rfl
        | some =>
          dsimp only [alone]
          rw [at_index, setManager_alone]
          rfl

end RequestSystem

/-! ### Pinned requests -/

/-- The request has been filtered, keeps the state it loaded, and waits for no
cluster but the one it was routed to. -/
structure Pinned (index : Nat) (system : RequestSystem) : Prop where
  filtered : system.stage ≠ .fresh
  loaded : system.ctx.runtimeState = some index
  stored : index < system.states.length
  waits : ∀ ref, system.stage.waitsFor = some ref → system.ctx.cluster = some ref

theorem Pinned.cluster_state {system : RequestSystem} (pinned : Pinned index system)
    {ref : ClusterRef} (routed : system.ctx.cluster = some ref) : ref.state = index := by
  unfold RequestContext.cluster at routed
  rw [pinned.loaded] at routed
  cases named : system.ctx.upstreamName with
  | none =>
    rw [named] at routed
    cases routed
  | some =>
    rw [named] at routed
    cases routed
    rfl

private theorem alone_stage {stage other : Stage} (plain : other.waitsFor = none)
    (standing : stage = other) : stage.alone = other := by
  rw [standing]
  cases other with
  | waitingPool | waitingBreaker => cases plain
  | _ => rfl

theorem startsAttempt_alone (stage : Stage) : stage.alone.startsAttempt = stage.startsAttempt := by
  cases stage <;> rfl

private theorem inFlight_alone (stage : Stage) : stage.alone.inFlight = stage.inFlight := by
  cases stage <;> rfl

section

variable {index : Nat} {before after : RequestSystem} {output : Option ProxyError}

variable {readings : Readings}

theorem guarded_alone {guard shownGuard : Bool} {result shown : RequestSystem × Option ProxyError}
    (ran : (if guard = true then some result else none) = some (after, output))
    (guards : shownGuard = guard) (same : shown = aloneResult index result) :
    (if shownGuard = true then some shown else none) = some (after.alone index, output) := by
  split at ran
  · rename_i holds
    rw [guards, if_pos holds, same, Option.some.inj ran]
    rfl
  · cases ran

theorem Pinned.logging_alone {written : Option StatusCode} (pinned : Pinned index before)
    (ran : before.advance (.logging written readings) = some (after, output)) :
    (before.alone index).advance (.logging written readings) =
      some (after.alone index, output) := by
  have logs := fun failed => RequestSystem.alone_logging
    (fun ref routed => pinned.cluster_state routed) failed written readings
  dsimp only [advance] at ran ⊢
  cases stage : before.stage with
  | responded | refused retry | failed retry =>
    rw [stage] at ran
    cases ran
    rw [show (before.alone index).stage = _ from alone_stage rfl stage]
    dsimp only
    rw [logs]
  | answered status =>
    rw [stage] at ran
    rw [show (before.alone index).stage = _ from alone_stage rfl stage]
    dsimp only at ran ⊢
    split at ran
    · rename_i same
      cases ran
      rw [if_pos same, logs]
    · cases ran
  | _ =>
    rw [stage] at ran
    cases ran

theorem Pinned.breaker_alone {granted : Bool} {draw : Nat} (pinned : Pinned index before)
    (ran : before.advance (.breakerAnswers granted draw readings) = some (after, output)) :
    (before.alone index).advance (.breakerAnswers granted draw readings) =
      some (after.alone index, output) := by
  dsimp only [advance] at ran ⊢
  split at ran
  · rename_i ref waiting
    have held := pinned.cluster_state (pinned.waits ref (waitsFor_waitingBreaker waiting))
    have standing : (before.alone index).stage = .waitingBreaker (aloneRef ref) :=
      congrArg Stage.alone waiting
    rw [standing]
    dsimp only
    rw [RequestSystem.alone_breakerAnswers held, ran]
    rfl
  · cases ran

private theorem perform_alone {name : Text} {call : ClusterCall}
    (ran : before.advance (.perform index name call readings) = some (after, output)) :
    (before.alone index).advance (.perform 0 name call readings) =
      some (after.alone index, output) := by
  dsimp only [advance] at ran ⊢
  split at ran
  · cases ran
  · rename_i state found
    cases ran
    have alone : (before.alone index).states[0]? = some state := by
      change before.states[index]?.toList[0]? = _
      rw [found]
      rfl
    rw [alone]
    dsimp only [RequestSystem.alone]
    rw [setManager_alone]

theorem Pinned.advance_alone {action shown : RequestAction} (pinned : Pinned index before)
    (ran : before.advance action = some (after, output)) (shows : action.alone index = some shown) :
    (before.alone index).advance shown = some (after.alone index, output) := by
  cases action with
  | receive =>
    dsimp only [advance] at ran
    split at ran
    · rename_i fresh _
      exact absurd fresh pinned.filtered
    · cases ran
  | beginAttempt =>
    cases shows
    exact guarded_alone ran (startsAttempt_alone before.stage)
      (RequestSystem.alone_beginAttempt pinned.loaded _)
  | poolAnswers =>
    cases shows
    dsimp only [advance] at ran ⊢
    split at ran
    · rename_i ref waiting
      have standing : (before.alone index).stage = .waitingPool (aloneRef ref) :=
        congrArg Stage.alone waiting
      rw [standing]
      dsimp only
      rw [RequestSystem.alone_poolAnswers, Option.some.inj ran]
      rfl
    · cases ran
  | breakerAnswers =>
    cases shows
    exact pinned.breaker_alone ran
  | failToConnect error now =>
    cases shows
    exact guarded_alone ran (inFlight_alone before.stage) (RequestSystem.alone_fail
      (before.ctx.alone_failToConnect before.method error now))
  | errorWhileProxy error clientReused now =>
    cases shows
    exact guarded_alone ran (inFlight_alone before.stage) (RequestSystem.alone_fail
      (before.ctx.alone_errorWhileProxy before.method error clientReused _ now))
  | responseFilter =>
    cases shows
    exact guarded_alone ran (inFlight_alone before.stage) (RequestSystem.alone_responseFilter _ _)
  | truncateRetryBuffer =>
    cases shows
    cases ran
    rfl
  | logging =>
    cases shows
    exact pinned.logging_alone ran
  | perform =>
    dsimp only [RequestAction.alone] at shows
    split at shows
    · rename_i same
      subst same
      cases shows
      exact perform_alone ran
    · cases shows
  | store => cases shows

theorem Pinned.advance_hidden {action : RequestAction} (pinned : Pinned index before)
    (ran : before.advance action = some (after, output)) (hidden : action.alone index = none) :
    after.alone index = before.alone index ∧ output = none := by
  cases action with
  | perform =>
    dsimp only [RequestAction.alone] at hidden
    split at hidden
    · cases hidden
    · rename_i elsewhere
      dsimp only [advance] at ran
      split at ran
      · cases ran
      · cases ran
        refine ⟨?_, rfl⟩
        dsimp only [RequestSystem.alone]
        rw [setManager_elsewhere _ elsewhere]
  | store =>
    cases ran
    refine ⟨?_, rfl⟩
    dsimp only [RequestSystem.alone]
    rw [List.getElem?_append_left pinned.stored]
  | _ => cases hidden

end

end Pavis.Proxy
