/-
Runs of a request beside swaps of the configuration.

A filtered request stays with the state it has loaded. No later hook decides
again what the filter has decided, and the view of the request alone with its
state goes through the same steps.
-/

import Pavis.Proxy.AttemptRuns
import Pavis.Proxy.Snapshot
import Pavis.Proxy.StoredStates
import Pavis.Routing.Reference

namespace Pavis.Proxy

open ByteText Config Fallible LabelledRun State Upstream
open Routing (Request Selection matchRequest wordEngine)
open RequestSystem (clusterAt)

/-- What the filter has decided for a request. -/
structure Decisions where
  router : RouterContext
  requestHeaders : HeadersPolicy
  responseHeaders : HeadersPolicy
  clientIdentity : Option Text
  rbacDenied : Bool
  routeTimeout : Timeout
  retryPolicy : RetryPolicy
  routePattern : Option Text
  runtimeState : Option Nat
  deriving DecidableEq

def RequestContext.decisions (ctx : RequestContext) : Decisions :=
  { router := ctx.toRouterContext
    requestHeaders := ctx.requestHeaders
    responseHeaders := ctx.responseHeaders
    clientIdentity := ctx.clientIdentity
    rbacDenied := ctx.rbacDenied
    routeTimeout := ctx.routeTimeout
    retryPolicy := ctx.retryPolicy
    routePattern := ctx.routePattern
    runtimeState := ctx.runtimeState }

theorem RequestContext.decisions_beginning (ctx : RequestContext) :
    ctx.beginning.decisions = ctx.decisions := by
  unfold beginning
  split <;> rfl

variable {ctx : RequestContext} {index : Nat}
  {step : RequestStep} {start : RequestSystem}
  {steps : List RequestStep}
  {state : MaterializedRuntimeConfig} {ref : ClusterRef}

theorem RequestContext.Charges.decisions_eq {after : RequestContext} (charges : ctx.Charges after) :
    after.decisions = ctx.decisions := by
  obtain ⟨_, _, _, _, rfl⟩ := charges
  rfl

theorem cluster_of_decisions {after : RequestContext} (same : after.decisions = ctx.decisions) :
    after.cluster = ctx.cluster := by
  have loaded : after.runtimeState = ctx.runtimeState := congrArg Decisions.runtimeState same
  have routed : after.toRouterContext = ctx.toRouterContext := congrArg Decisions.router same
  unfold RequestContext.cluster
  rw [loaded, routed]

section

variable {before after : RequestSystem} {action : RequestAction} {output : Option ProxyError}

theorem Moves.decisions_kept (moves : Moves before action after output)
    (filtered : before.stage ≠ .fresh) : after.ctx.decisions = before.ctx.decisions := by
  cases moves with
  | elsewhere | grants | refusesPeer | connects | answers | ends => rfl
  | receives ctx stage fresh => exact absurd fresh filtered
  | begins => exact before.ctx.decisions_beginning
  | refusesAtOnce ctx error starts kept =>
    rcases kept with rfl | rfl
    · rfl
    · exact before.ctx.decisions_beginning
  | refusesPermit ref states ctx error waiting kept spent =>
    rcases spent with ⟨_, charges⟩ | ⟨_, rfl | rfl⟩
    · exact charges.decisions_eq
    · rfl
    · rfl
  | fails result flies spent =>
    rcases spent with charges | ⟨same, _⟩
    · exact charges.decisions_eq
    · exact congrArg RequestContext.decisions same

theorem Moves.waits_kept (moves : Moves before action after output)
    (waits : ∀ ref, before.stage.waitsFor = some ref → before.ctx.cluster = some ref) :
    ∀ ref, after.stage.waitsFor = some ref → after.ctx.cluster = some ref := by
  intro ref waiting
  cases moves with
  | elsewhere => exact waits ref waiting
  | receives ctx stage fresh unattempted leads =>
    rcases leads with rfl | rfl <;> cases waiting
  | begins other starts routed =>
    cases waiting
    exact (cluster_of_decisions before.ctx.decisions_beginning).trans routed
  | grants other standing =>
    cases waiting
    exact waits ref (waitsFor_waitingPool standing)
  | _ => cases waiting

end

theorem Pinned.preserved (pinned : Pinned index step.before)
    (accepted : step.Accepted requestStep) : Pinned index step.after := by
  have stored : index < step.after.states.length := by
    have lengths := (requestStep_touches accepted).grown.length_eq
    have long := pinned.stored
    rw [List.length_append] at lengths
    omega
  obtain ⟨moved, moves, same⟩ := requestStep_moves accepted
  rw [same] at stored ⊢
  have decided := moves.decisions_kept pinned.filtered
  exact ⟨fun fresh => pinned.filtered (moves.fresh_before fresh),
    (congrArg Decisions.runtimeState decided).trans pinned.loaded, stored,
    moves.waits_kept pinned.waits⟩

theorem Pinned.decisions_step (pinned : Pinned index step.before)
    (accepted : step.Accepted requestStep) :
    step.after.ctx.decisions = step.before.ctx.decisions := by
  obtain ⟨moved, moves, same⟩ := requestStep_moves accepted
  rw [same]
  exact moves.decisions_kept pinned.filtered

theorem Pinned.visited (isRun : IsRun requestStep start steps) (pinned : Pinned index start)
    {system : RequestSystem} (visits : Visits start steps system) :
    Pinned index system ∧ system.ctx.decisions = start.ctx.decisions := by
  refine isRun.invariant_visited
    (fun system => Pinned index system ∧ system.ctx.decisions = start.ctx.decisions)
    ⟨pinned, rfl⟩ ?_ visits
  intro step accepted kept
  exact ⟨kept.1.preserved accepted, (kept.1.decisions_step accepted).trans kept.2⟩

theorem Pinned.run_alone (isRun : IsRun requestStep start steps) (pinned : Pinned index start) :
    IsRun requestStep (start.alone index)
      (steps.filterMap (Step.project (RequestSystem.alone index) (RequestAction.alone index))) := by
  refine IsRun.project (Pinned index) (fun step accepted held => held.preserved accepted) ?_ ?_
    pinned isRun
  · intro step accepted held hidden
    obtain ⟨moved, ran, same⟩ := requestStep_advance accepted
    obtain ⟨unseen, quiet⟩ := held.advance_hidden ran hidden
    rw [same, quiet]
    exact unseen
  · intro step accepted held shown shows
    obtain ⟨moved, ran, same⟩ := requestStep_advance accepted
    unfold requestStep
    rw [held.advance_alone ran shows, same]
    rfl

theorem clusterAt_setManager_of_ne {states : List MaterializedRuntimeConfig} {manager : Manager}
    (found : states[index]? = some state) (same : ref.state = index →
      manager.get ref.name = state.upstreamManager.get ref.name) :
    clusterAt (RequestSystem.setManager states index manager) ref =
      clusterAt states ref := by
  unfold clusterAt
  by_cases here : ref.state = index
  · unfold RequestSystem.setManager
    rw [here, List.getElem?_modify_eq, found]
    exact same here
  · rw [setManager_elsewhere states (fun at_index => here at_index.symm)]

theorem Pinned.clusters_untouched (pinned : Pinned index step.before)
    (accepted : step.Accepted requestStep) (hook : step.label.isHook = true)
    (elsewhere : step.before.ctx.cluster ≠ some ref) :
    clusterAt step.after.states ref =
      clusterAt step.before.states ref := by
  have touches := requestStep_touches accepted
  generalize step.after.states = states at touches
  cases touches with
  | nothing => rfl
  | cluster touched state manager silent updates =>
    obtain ⟨⟨own, routed, held⟩, others⟩ := updates.hook hook
    refine clusterAt_setManager_of_ne updates.found fun here => others ref.name ?_
    intro named
    apply elsewhere
    have owned : step.before.ctx.cluster = some own := routed.elim (pinned.waits own) id
    rw [owned]
    have ownName := upstreamName_of_cluster owned
    rw [named] at ownName
    obtain ⟨refState, refName⟩ := ref
    obtain ⟨ownState, ownName'⟩ := own
    cases Option.some.inj ownName
    cases here
    cases held
    rfl
  | stores state same =>
    rw [same] at hook
    cases hook

/-! ### Destinations of validated configurations -/

def Validated (state : MaterializedRuntimeConfig) : Prop :=
  ∃ (engine : Routing.RegexEngine) (surroundings : Surroundings)
    (config : ValidatedRuntimeConfig engine),
    MaterializedRuntimeConfig.build surroundings config = .ok state

private theorem build_represents {engine : Routing.RegexEngine} {surroundings : Surroundings}
    {config : ValidatedRuntimeConfig engine}
    (built : MaterializedRuntimeConfig.build surroundings config = .ok state) :
    state.router.Represents config.runtime.routes := by
  simp only [MaterializedRuntimeConfig.build, bind_eq_ok] at built
  obtain ⟨compiled, _, router, ranRouter, manager, _, same⟩ := built
  cases same
  have ran := mapError_eq_ok.mp ranRouter
  have compiles : ∀ vhost ∈ config.runtime.routes, vhost.Compiles engine := by
    intro vhost host route path
    exact (config.accepted.eachRoute route ⟨vhost, host, path⟩).compiles
  exact Routing.Router.represents_of_withRegex ran config.accepted.hosts compiles

variable {request : Request} {name : Text} {inputs : FilterInputs}
  {certificate : Option AlternativeNames}

theorem Validated.destination_found (validated : Validated state)
    {selection : Selection RoutePolicy}
    (matched : (matchRequest state.router request).selection = some selection)
    {destination : Destination}
    (listed : destination ∈ selection.route.policy.action.destinations) :
    (state.upstreamManager.get destination.upstream).isSome = true := by
  obtain ⟨engine, surroundings, config, built⟩ := validated
  rw [(build_represents built).selection_eq] at matched
  have route : config.runtime.HasRoute selection.route :=
    ⟨selection.vhost, Routing.vhost_mem_of_referenceMatch matched, List.get_mem _ _⟩
  obtain ⟨upstream, declared, named⟩ :=
    List.mem_map.mp ((config.accepted.eachRoute _ route).declared destination listed)
  obtain ⟨cluster, present⟩ :=
    Manager.get_of_mem (MaterializedRuntimeConfig.build_manager built) declared
  rw [← named, present]
  rfl

private theorem pickDestination_mem {destinations : List Destination} {pick : Nat}
    {destination : Destination} (picked : pickDestination destinations pick = some destination) :
    destination ∈ destinations := by
  unfold pickDestination at picked
  split at picked
  · exact List.mem_of_getElem? picked
  · cases picked
  · cases picked

theorem selectDestination_mem {effects : List FilterEffect} {destinations : List Destination}
    {draw : Nat} (unnamed : ctx.upstreamName = none)
    (named : (selectDestination ctx effects destinations draw).ctx.upstreamName = some name) :
    ∃ destination ∈ destinations, destination.upstream = name := by
  unfold selectDestination at named
  dsimp only at named
  split at named
  · rw [unnamed] at named
    cases named
  · split at named
    · rw [unnamed] at named
      cases named
    · rename_i destination picked
      exact ⟨destination, pickDestination_mem picked, Option.some.inj named⟩

private theorem setRewrittenHost_upstreamName (ctx : RouterContext) (rewrite : RewriteHost) :
    (setRewrittenHost ctx rewrite).upstreamName = ctx.upstreamName := by
  cases rewrite <;> rfl

private theorem serveRoute_destination {route : Route} (unnamed : ctx.upstreamName = none)
    (named : (serveRoute route inputs ctx).ctx.upstreamName = some name) :
    ∃ destination ∈ route.policy.action.destinations, destination.upstream = name := by
  have rewritten : (setRewrittenHost ctx.toRouterContext
      route.policy.rewrite.host).upstreamName = none :=
    (setRewrittenHost_upstreamName _ _).trans unnamed
  unfold serveRoute at named
  dsimp only at named
  split at named
  · rw [rewritten] at named
    cases named
  · rename_i prepared ran
    obtain ⟨retryCtx, bufferedBody, rfl⟩ := prepareRetry_kept ran
    split at named
    · rename_i destinations action
      rw [action]
      exact selectDestination_mem rewritten named
    · exact absurd (rewritten.symm.trans named) (by simp)
    · exact absurd (rewritten.symm.trans named) (by simp)

private theorem filterRequest_destination
    (named : (filterRequest certificate index state request inputs).ctx.upstreamName =
      some name) :
    ∃ selection, (matchRequest state.router request).selection = some selection ∧
      ∃ destination ∈ selection.route.policy.action.destinations,
        destination.upstream = name := by
  unfold filterRequest RequestContext.requestFilter at named
  dsimp only at named
  split at named
  · cases named
  · rename_i selection matched
    refine ⟨selection, matched, ?_⟩
    split at named
    · refine serveRoute_destination ?_ named
      rfl
    · cases named

theorem serveRoute_runtimeState (route : Route) (inputs : FilterInputs) (ctx : RequestContext) :
    (serveRoute route inputs ctx).ctx.runtimeState = ctx.runtimeState := by
  unfold serveRoute
  dsimp only
  split
  · rfl
  · rename_i prepared ran
    obtain ⟨retryCtx, bufferedBody, rfl⟩ := prepareRetry_kept ran
    split
    · unfold selectDestination
      dsimp only
      split
      · rfl
      · split <;> rfl
    · rfl
    · rfl

private theorem filterRequest_runtimeState (certificate : Option AlternativeNames) (index : Nat)
    (state : MaterializedRuntimeConfig) (request : Request) (inputs : FilterInputs) :
    (filterRequest certificate index state request inputs).ctx.runtimeState = some index := by
  unfold filterRequest RequestContext.requestFilter
  dsimp only
  split
  · rfl
  · split
    · exact serveRoute_runtimeState _ _ _
    · rfl

theorem Moves.request_kept {before after : RequestSystem} {action : RequestAction}
    {output : Option ProxyError} (moves : Moves before action after output) :
    after.request = before.request := by
  cases moves <;> rfl

theorem request_visited (isRun : IsRun requestStep (RequestSystem.start state request) steps)
    {system : RequestSystem} (visits : Visits (RequestSystem.start state request) steps system) :
    system.request = request := by
  refine isRun.invariant_visited (fun system => system.request = request) rfl ?_ visits
  intro step accepted kept
  obtain ⟨moved, moves, same⟩ := requestStep_moves accepted
  rw [same]
  exact moves.request_kept.trans kept

private theorem receive_stage (system : RequestSystem) (state : MaterializedRuntimeConfig)
    (certificate : Option AlternativeNames) (inputs : FilterInputs) :
    (system.receive state certificate inputs).stage = .ready ∨
      (system.receive state certificate inputs).stage = .responded := by
  unfold RequestSystem.receive
  dsimp only
  split
  · exact Or.inl rfl
  · exact Or.inr rfl
  · exact Or.inr rfl

theorem received_spec (accepted : step.Accepted requestStep)
    (receives : step.label = .receive certificate inputs) :
    ∃ loaded, step.before.states[step.before.current]? = some loaded ∧
      step.after.states = step.before.states ∧
      step.after.ctx = (filterRequest certificate step.before.current loaded step.before.request
        inputs).ctx ∧
      (step.after.stage = .ready ∨ step.after.stage = .responded) := by
  obtain ⟨moved, ran, same⟩ := requestStep_advance accepted
  rw [receives] at ran
  dsimp only [RequestSystem.advance] at ran
  split at ran
  · rename_i loaded _ found
    refine ⟨loaded, found, ?_⟩
    rw [same, ← (Prod.mk.inj (Option.some.inj ran)).1]
    exact ⟨rfl, rfl, receive_stage step.before loaded certificate inputs⟩
  · cases ran

theorem pinned_of_received (accepted : step.Accepted requestStep)
    (receives : step.label = .receive certificate inputs) :
    Pinned step.before.current step.after := by
  obtain ⟨loaded, found, states, ctx, stage⟩ := received_spec accepted receives
  refine ⟨?_, ?_, ?_, ?_⟩
  · rcases stage with standing | standing
    all_goals
      rw [standing]
      exact Stage.noConfusion
  · rw [ctx]
    exact filterRequest_runtimeState certificate _ loaded _ inputs
  · rw [states]
    exact (List.getElem?_eq_some_iff.mp found).1
  · intro ref waiting
    rcases stage with standing | standing
    all_goals
      rw [standing] at waiting
      cases waiting

theorem grown_at {origins states : List MaterializedRuntimeConfig}
    (grown : List.Forall₂ Grown origins states) {origin : MaterializedRuntimeConfig}
    (found : origins[index]? = some origin) :
    ∃ state, states[index]? = some state ∧ Grown origin state := by
  induction grown generalizing index with
  | nil => cases found
  | cons first _ ih =>
    cases index with
    | zero =>
      cases found
      exact ⟨_, rfl, first⟩
    | succ => exact ih found

private theorem cluster_visited (isRun : IsRun requestStep start steps)
    (present : (clusterAt start.states ref).isSome = true)
    (found : steps[index]? = some step) : (clusterAt step.before.states ref).isSome = true := by
  refine isRun.invariant_before
    (fun system => (clusterAt system.states ref).isSome = true) present ?_ found
  intro step accepted held
  unfold clusterAt at held ⊢
  cases older : step.before.states[ref.state]? with
  | none =>
    rw [older] at held
    cases held
  | some state =>
    rw [older] at held
    have listed : (step.before.states ++ step.label.stored.toList)[ref.state]? = some state := by
      rw [List.getElem?_append_left (List.getElem?_eq_some_iff.mp older).1, older]
    obtain ⟨newer, at_index, grown⟩ := grown_at (requestStep_touches accepted).grown listed
    rw [at_index]
    exact grown.clusters ref.name held

theorem beginAttempt_output {before : RequestSystem} (routed : before.ctx.cluster = some ref)
    (present : (clusterAt before.states ref).isSome = true) (now : Instant) :
    (before.beginAttempt now).2 = before.ctx.retryRefusal now := by
  unfold RequestContext.cluster at routed
  split at routed
  · rename_i index name loaded named
    cases routed
    obtain ⟨cluster, found⟩ := Option.isSome_iff_exists.mp present
    unfold RequestSystem.beginAttempt
    dsimp only
    rw [named, loaded]
    dsimp only
    rw [found]
    dsimp only
    cases before.ctx.retryRefusal now with
    | none | some => rfl
  · cases routed

/-- The state a run begins with, and those stored in it. -/
def storedStates (state : MaterializedRuntimeConfig)
    (steps : List (Step RequestSystem RequestAction (Option ProxyError))) :
    List MaterializedRuntimeConfig :=
  state :: steps.filterMap fun step => step.label.stored

theorem received_cluster {front : List RequestStep} {received : RequestStep}
    (isRun : IsRun requestStep (RequestSystem.start state request) front)
    (before : received.before = final (RequestSystem.start state request) front)
    (accepted : received.Accepted requestStep)
    (receives : received.label = .receive certificate inputs) {origin : MaterializedRuntimeConfig}
    (stored : (storedStates state front)[received.before.current]? = some origin)
    (validated : Validated origin) (routed : received.after.ctx.cluster = some ref) :
    (clusterAt received.after.states ref).isSome = true := by
  obtain ⟨loaded, found, states, ctx, _⟩ := received_spec accepted receives
  have grownAll := states_grown isRun
  rw [← before] at grownAll
  obtain ⟨other, again, grown⟩ := grown_at grownAll stored
  cases found.symm.trans again
  have named := upstreamName_of_cluster routed
  have held := (pinned_of_received accepted receives).cluster_state routed
  rw [ctx] at named
  obtain ⟨selection, matched, destination, listed, same⟩ := filterRequest_destination named
  rw [grown.router] at matched
  have present := grown.clusters _ (validated.destination_found matched listed)
  unfold clusterAt
  rw [states, held, found, ← same]
  exact present

/-- A request that is filtered in any run of swaps, calls of clusters and hooks
loads the current state once. Its context is then what the filter makes of that
state, and no later hook decides anything of it again. The clusters it waits for
and those its hooks touch are the one it was routed to in that state, and its
hooks do what they would do if there were no other state. If the state was built
from a validated configuration, every attempt finds its cluster. -/
theorem request_keeps_snapshot (state : MaterializedRuntimeConfig) (request : Request)
    (front back : List (Step RequestSystem RequestAction (Option ProxyError)))
    (received : Step RequestSystem RequestAction (Option ProxyError))
    (isRun : IsRun requestStep (RequestSystem.start state request) (front ++ received :: back))
    (certificate : Option AlternativeNames) (inputs : FilterInputs)
    (receives : received.label = .receive certificate inputs) :
    ∃ loaded, received.before.states[received.before.current]? = some loaded ∧
      received.after.ctx = (filterRequest certificate received.before.current loaded request
        inputs).ctx ∧
      (∀ system, Visits received.after back system →
        system.ctx.decisions = received.after.ctx.decisions ∧
        ∀ ref, system.stage.waitsFor = some ref → received.after.ctx.cluster = some ref) ∧
      (∀ step ∈ back, step.label.isHook = true → ∀ ref, received.after.ctx.cluster ≠ some ref →
        RequestSystem.clusterAt step.after.states ref =
          RequestSystem.clusterAt step.before.states ref) ∧
      IsRun requestStep (received.after.alone received.before.current)
        (back.filterMap (Step.project (RequestSystem.alone received.before.current)
          (RequestAction.alone received.before.current))) ∧
      (∀ origin, (storedStates state front)[received.before.current]? = some origin →
        Validated origin →
        ∀ ref, received.after.ctx.cluster = some ref → ∀ step ∈ back,
          (RequestSystem.clusterAt step.before.states ref).isSome = true ∧
          ∀ now, step.label = .beginAttempt now →
            step.output = step.before.ctx.retryRefusal now) := by
  obtain ⟨before, accepted, later⟩ := isRun.around
  obtain ⟨loaded, found, states, ctx, stage⟩ := received_spec accepted receives
  have earlier := isRun.append_left
  have asked : received.before.request = request := by
    rw [before]
    exact request_visited earlier (visits_final _ _)
  have pinned := pinned_of_received accepted receives
  have atStep : ∀ step ∈ back, step.Accepted requestStep ∧
      Pinned received.before.current step.before ∧
      step.before.ctx.decisions = received.after.ctx.decisions := by
    intro step member
    obtain ⟨index, at_index⟩ := List.getElem?_of_mem member
    refine ⟨later.accepted_at at_index, later.invariant_before
      (fun system => Pinned received.before.current system ∧
        system.ctx.decisions = received.after.ctx.decisions) ⟨pinned, rfl⟩ ?_ at_index⟩
    intro step accepted kept
    exact ⟨kept.1.preserved accepted, (kept.1.decisions_step accepted).trans kept.2⟩
  refine ⟨loaded, found, asked ▸ ctx, ?_, ?_, pinned.run_alone later, ?_⟩
  · intro system visits
    obtain ⟨held, same⟩ := pinned.visited later visits
    exact ⟨same, fun ref waiting => (cluster_of_decisions same).symm.trans (held.waits ref waiting)⟩
  · intro step member hook ref elsewhere
    obtain ⟨taken, held, same⟩ := atStep step member
    apply held.clusters_untouched taken hook
    rw [cluster_of_decisions same]
    exact elsewhere
  · intro origin stored validated ref routed step member
    obtain ⟨taken, held, same⟩ := atStep step member
    obtain ⟨index, at_index⟩ := List.getElem?_of_mem member
    have present := cluster_visited later
      (received_cluster earlier before accepted receives stored validated routed) at_index
    refine ⟨present, ?_⟩
    intro now begins
    have routedHere := (cluster_of_decisions same).trans routed
    obtain ⟨moved, ran, _⟩ := requestStep_advance taken
    rw [begins] at ran
    dsimp only [RequestSystem.advance] at ran
    split at ran
    · have output := beginAttempt_output routedHere present now
      rw [Option.some.inj ran] at output
      exact output
    · cases ran

def retryingConfig : RuntimeConfig :=
  { emptyConfig with
    upstreams := [apiUpstream [firstEndpoint]]
    routes :=
      [{ host := literal "example.com", paths := [retryingRoute (.enabled twoAttempts)] }] }

private theorem retryingConfig_accepted : retryingConfig.Accepted wordEngine := by
  obtain ⟨validated, after, accepted⟩ := validateRuntime_of_check
    (show (checkRuntime (PatternCache.empty wordEngine) retryingConfig).isOk = true by
      decide +kernel)
  exact validateRuntime_runtime accepted ▸ validated.accepted

def retryingValidated : ValidatedRuntimeConfig wordEngine :=
  { runtime := retryingConfig, accepted := retryingConfig_accepted }

def filtersFirst (state : MaterializedRuntimeConfig) :
    Step RequestSystem RequestAction (Option ProxyError) :=
  { before := RequestSystem.start state plainRequest
    label := .receive none plainInputs
    after := (RequestSystem.start state plainRequest).receive state none plainInputs
    output := none }

def swapBetween (state : MaterializedRuntimeConfig) : List RequestAction :=
  obtainPeer ++ [connectFails, .store { state with upstreamManager := { clusters := ∅ } }] ++
    obtainPeer

def afterSwap (state : MaterializedRuntimeConfig) :
    List (Step RequestSystem RequestAction (Option ProxyError)) :=
  trace requestStep (filtersFirst state).after (swapBetween state)

/-- The second attempt obtains a peer, though its upstream is gone from the state
that is current by then. -/
theorem retry_keeps_swapped_snapshot :
    ∃ state, MaterializedRuntimeConfig.build channelSurroundings retryingValidated = .ok state ∧
      (final (filtersFirst state).after (afterSwap state)).stage = .proxying ∧
      (RequestSystem.clusterAt (final (filtersFirst state).after (afterSwap state)).states
        { state := 1, name := literal "api" }).isSome = false ∧
      (final (filtersFirst state).after (afterSwap state)).ctx.decisions =
        (filtersFirst state).after.ctx.decisions ∧
      ∀ step ∈ afterSwap state,
        (RequestSystem.clusterAt step.before.states apiCluster).isSome = true := by
  have evaluated :
      (MaterializedRuntimeConfig.build channelSurroundings retryingValidated).map
        (fun state => ((final (filtersFirst state).after (afterSwap state)).stage,
          (RequestSystem.clusterAt (final (filtersFirst state).after (afterSwap state)).states
            { state := 1, name := literal "api" }).isSome,
          (filtersFirst state).after.ctx.cluster)) =
      .ok (.proxying, false, some apiCluster) := by
    decide +kernel
  obtain ⟨state, built, facts⟩ := exists_of_map_eq_ok evaluated
  simp only [Prod.mk.injEq] at facts
  obtain ⟨proxying, gone, routed⟩ := facts
  obtain ⟨_, _, _, kept, _, _, found⟩ := request_keeps_snapshot state plainRequest []
    (afterSwap state) (filtersFirst state) ⟨rfl, rfl, trace_isRun requestStep _ _⟩ none plainInputs
    rfl
  refine ⟨state, built, proxying, gone, (kept _ (visits_final _ _)).1, ?_⟩
  intro step member
  exact (found state rfl ⟨wordEngine, channelSurroundings, retryingValidated, built⟩ apiCluster
    routed step member).1

end Pavis.Proxy
