/-
The attempts of a whole request.

What the attempts before it left in the context decides whether an attempt waits for
itself, and which of them the cluster is told about.
-/

import Pavis.Proxy.RetryRuns

namespace Pavis.Proxy

open ByteText Config Fallible LabelledRun State Upstream
open Routing (Request)
open RequestSystem (outcome clusterAt)

/-- No attempt came before, or the counter shows that one did. -/
def RequestSystem.KnowsAttempts (system : RequestSystem) : Prop :=
  system.attempts.length = 1 ∨ system.ctx.isRetrying = true

def RequestContext.HoldsNothing (ctx : RequestContext) : Prop :=
  ctx.poolPermit = none ∧ ctx.circuitBreakerPermit = none

structure Waits (system : RequestSystem) (ref : ClusterRef) : Prop where
  routed : system.ctx.cluster = some ref
  begun : system.attempts ≠ []
  released : system.KnowsAttempts → system.ctx.HoldsNothing
  blocked : ¬ system.KnowsAttempts → system.ctx.poolPermit = some ref

structure Occupied (system : RequestSystem) : Prop where
  retries : system.ctx.Retries
  fresh : system.stage = .fresh → system.attempts = []
  ready : system.stage = .ready → system.attempts = [] ∧ system.ctx.HoldsNothing
  waiting : ∀ ref, system.stage.waitsFor = some ref → Waits system ref
  flying : system.stage.inFlight = true →
    system.attempts ≠ [] ∧ ∃ ref, system.ctx.cluster = some ref ∧
      system.ctx.poolPermit = some ref
  refused : system.stage = .refused true → system.ctx.isRetrying = true

namespace RequestContext

private theorem isRetrying_beginning (ctx : RequestContext) :
    ctx.beginning.isRetrying = ctx.isRetrying := by
  unfold isRetrying
  rw [beginning_retryCtx]

theorem cluster_beginning (ctx : RequestContext) : ctx.beginning.cluster = ctx.cluster := by
  unfold beginning
  split <;> rfl

variable {ctx : RequestContext}

private theorem beginning_of_isRetrying (retrying : ctx.isRetrying = true) :
    ctx.beginning.HoldsNothing := by
  unfold beginning
  rw [if_pos retrying]
  exact ⟨rfl, rfl⟩

theorem HoldsNothing.beginning (nothing : ctx.HoldsNothing) : ctx.beginning.HoldsNothing := by
  unfold RequestContext.beginning
  split
  · exact ⟨rfl, rfl⟩
  · exact nothing

theorem Charges.cluster_eq {after : RequestContext} (charges : ctx.Charges after) :
    after.cluster = ctx.cluster ∧ after.poolPermit = ctx.poolPermit := by
  obtain ⟨retryCtx, now, present, more, rfl⟩ := charges
  exact ⟨rfl, rfl⟩

end RequestContext

theorem Occupied.begins {before : RequestSystem} (occupied : Occupied before) {ref : ClusterRef}
    (starts : before.stage.startsAttempt = true) (routed : before.ctx.cluster = some ref) :
    Waits { before with
      ctx := before.ctx.beginning
      stage := .waitingPool ref
      attempts := Attempt.new :: before.attempts } ref := by
  refine ⟨before.ctx.cluster_beginning.trans routed, List.cons_ne_nil _ _, ?_, ?_⟩
  · intro knows
    by_cases retrying : before.ctx.isRetrying = true
    · exact RequestContext.beginning_of_isRetrying retrying
    · rcases startsAttempt_cases starts with ready | refused | failed
      · exact (occupied.ready ready).2.beginning
      · exact absurd (occupied.refused refused) retrying
      · have begun := (occupied.flying (by rw [failed]; rfl)).1
        rcases knows with single | again
        · exact absurd (List.length_eq_zero_iff.mp (Nat.succ.inj single)) begun
        · exact absurd (before.ctx.isRetrying_beginning.symm.trans again) retrying
  · intro unknown
    have fresh : ¬ before.ctx.isRetrying = true := fun retrying =>
      unknown (Or.inr (before.ctx.isRetrying_beginning.trans retrying))
    rcases startsAttempt_cases starts with ready | refused | failed
    · refine absurd (Or.inl ?_) unknown
      change (Attempt.new :: before.attempts).length = 1
      rw [(occupied.ready ready).1]
      rfl
    · exact absurd (occupied.refused refused) fresh
    · obtain ⟨_, other, sameRef, held⟩ := occupied.flying (by rw [failed]; rfl)
      cases routed.symm.trans sameRef
      change before.ctx.beginning.poolPermit = some ref
      unfold RequestContext.beginning
      rw [if_neg fresh]
      exact held

variable {attempts : List Attempt}

private theorem ne_nil_of_length_eq {begun : List Attempt} (same : attempts.length = begun.length)
    (started : begun ≠ []) : attempts ≠ [] := by
  rw [← List.length_pos_iff, same]
  exact List.length_pos_of_ne_nil started

namespace Occupied

variable {system : RequestSystem}

theorem of_waiting {ref : ClusterRef} (standing : system.stage.waitsFor = some ref)
    (retries : system.ctx.Retries) (waits : Waits system ref) : Occupied system := by
  refine ⟨retries, ?_, ?_, ?waiting, ?flying, ?_⟩
  case waiting =>
    intro other same
    cases standing.symm.trans same
    exact waits
  case flying =>
    intro flies
    rw [waitsFor_of_inFlight flies] at standing
    cases standing
  all_goals
    intro elsewhere
    rw [elsewhere] at standing
    cases standing

private theorem of_refused {asks : Bool} (standing : system.stage = .refused asks)
    (retries : system.ctx.Retries) (charged : asks = true → system.ctx.isRetrying = true) :
    Occupied system := by
  refine ⟨retries, ?_, ?_, ?_, ?_, ?_⟩
  · intro fresh
    cases standing.symm.trans fresh
  · intro ready
    cases standing.symm.trans ready
  · intro ref waits
    rw [standing] at waits
    cases waits
  · intro flies
    rw [standing] at flies
    cases flies
  · intro refused
    exact charged (Stage.refused.inj (standing.symm.trans refused))

private theorem of_inFlight {ref : ClusterRef} (standing : system.stage.inFlight = true)
    (retries : system.ctx.Retries) (begun : system.attempts ≠ [])
    (routed : system.ctx.cluster = some ref) (held : system.ctx.poolPermit = some ref) :
    Occupied system := by
  refine ⟨retries, ?_, ?_, ?waiting, fun _ => ⟨begun, ref, routed, held⟩, ?_⟩
  case waiting =>
    intro other waits
    rw [waitsFor_of_inFlight standing] at waits
    cases waits
  all_goals
    intro elsewhere
    rw [elsewhere] at standing
    cases standing

end Occupied

section

variable {before after : RequestSystem} {action : RequestAction} {output : Option ProxyError}

theorem Moves.occupied (moves : Moves before action after output) (occupied : Occupied before) :
    Occupied { after with asked := after.asked + (asksRetry output).toNat } := by
  have retries := moves.retries occupied.retries
  cases moves with
  | elsewhere =>
    refine ⟨retries, occupied.fresh, occupied.ready, ?_, occupied.flying, occupied.refused⟩
    intro ref waits
    have waiting := occupied.waiting ref waits
    exact ⟨waiting.routed, waiting.begun, waiting.released, waiting.blocked⟩
  | receives ctx stage fresh unattempted leads =>
    have unstarted := occupied.fresh fresh
    refine ⟨retries, fun _ => unstarted,
      fun _ => ⟨unstarted, unattempted.pool, unattempted.breaker⟩, ?_, ?_, ?_⟩
    · intro ref waits
      rcases leads with rfl | rfl <;> cases waits
    · intro flies
      rcases leads with rfl | rfl <;> cases flies
    · intro refused
      rcases leads with rfl | rfl <;> cases refused
  | begins ref starts routed =>
    have waits := occupied.begins starts routed
    exact .of_waiting rfl retries ⟨waits.routed, waits.begun, waits.released, waits.blocked⟩
  | refusesAtOnce _ _ _ _ once | refusesPeer _ _ _ _ _ _ _ once =>
    refine .of_refused rfl retries ?_
    intro asks
    rw [once] at asks
    cases asks
  | grants ref waiting =>
    have waits := occupied.waiting ref (waitsFor_waitingPool waiting)
    exact .of_waiting rfl retries ⟨waits.routed, waits.begun, waits.released, waits.blocked⟩
  | refusesPermit ref states ctx error waiting kept spent =>
    refine .of_refused rfl retries ?_
    intro asks
    rcases spent with ⟨_, charges⟩ | ⟨once, _⟩
    · exact charges.isRetrying occupied.retries
    · rw [once] at asks
      cases asks
  | connects ref states endpoint permit waiting =>
    have waits := occupied.waiting ref (waitsFor_waitingBreaker waiting)
    exact .of_inFlight rfl retries
      (ne_nil_of_length_eq (Attempt.length_select endpoint _) waits.begun) waits.routed rfl
  | fails result flies spent =>
    obtain ⟨begun, ref, routed, held⟩ := occupied.flying flies
    have kept : result.1.cluster = some ref ∧ result.1.poolPermit = some ref := by
      rcases spent with charges | ⟨same, _⟩
      · rw [charges.cluster_eq.1, charges.cluster_eq.2]
        exact ⟨routed, held⟩
      · rw [same]
        exact ⟨routed, held⟩
    exact .of_inFlight rfl retries (ne_nil_of_length_eq (Attempt.length_mark true _) begun)
      kept.1 kept.2
  | answers status flies =>
    obtain ⟨begun, ref, routed, held⟩ := occupied.flying flies
    exact .of_inFlight rfl retries (ne_nil_of_length_eq (Attempt.length_mark _ _) begun) routed
      held
  | ends =>
    exact ⟨retries, fun fresh => (nomatch fresh), fun ready => (nomatch ready),
      fun ref waits => (nomatch waits), fun flies => (nomatch flies),
      fun refused => (nomatch refused)⟩

end

private theorem occupied_start (state : MaterializedRuntimeConfig) (request : Request) :
    Occupied (RequestSystem.start state request) :=
  ⟨fun _ present => (nomatch present), fun _ => rfl, fun ready => (nomatch ready),
    fun _ waits => (nomatch waits), fun flies => (nomatch flies),
    fun refused => (nomatch refused)⟩

theorem Occupied.step (step : RequestStep)
    (accepted : step.Accepted requestStep) (occupied : Occupied step.before) :
    Occupied step.after := by
  obtain ⟨moved, moves, same⟩ := requestStep_moves accepted
  rw [same]
  exact moves.occupied occupied

/-- A request that waits for a permit holds none of the same cluster exactly when no
attempt came before or the counter of the retry context shows that one did. -/
theorem waits_unblocked_iff (state : MaterializedRuntimeConfig) (request : Request)
    {steps : List (Step RequestSystem RequestAction (Option ProxyError))}
    (isRun : IsRun requestStep (RequestSystem.start state request) steps)
    {visited : RequestSystem} (visits : Visits (RequestSystem.start state request) steps visited)
    {ref : ClusterRef} (waits : visited.stage.waitsFor = some ref) :
    (visited.ctx.poolPermit ≠ some ref ∧ visited.ctx.circuitBreakerPermit ≠ some ref) ↔
      visited.attempts.length = 1 ∨ visited.ctx.isRetrying = true := by
  have occupied := isRun.invariant_visited Occupied (occupied_start state request) Occupied.step
    visits
  have waiting := occupied.waiting ref waits
  constructor
  · intro unheld
    by_contra unknown
    exact unheld.1 (waiting.blocked unknown)
  · intro knows
    obtain ⟨pool, breaker⟩ := waiting.released knows
    rw [pool, breaker]
    exact ⟨nofun, nofun⟩

def apiCluster : ClusterRef := { state := 0, name := literal "api" }

def narrowUpstream : Upstream :=
  { apiUpstream [firstEndpoint] with
    pool := { Pool.default with
      max := .constant 1
      queue := { capacity := 1, timeoutMs := 1000 } } }

def finalState (actions : List RequestAction) (state : MaterializedRuntimeConfig) : RequestSystem :=
  final (RequestSystem.start state plainRequest)
    (trace requestStep (RequestSystem.start state plainRequest) actions)

def reusedAgain : List RequestAction :=
  .receive none plainInputs :: obtainPeer ++ [reusedFails, .beginAttempt 0]

def connectFailsAgain : List RequestAction :=
  .receive none plainInputs :: obtainPeer ++ [connectFails, .beginAttempt 0]

/-- The second attempt waits for the only connection of the pool, which the first
one still holds. -/
theorem retry_waits_for_itself :
    (retryingState .disabled narrowUpstream).map
        (fun state => ((finalState reusedAgain state).stage,
          (finalState reusedAgain state).ctx.poolPermit)) =
      .ok (.waitingPool apiCluster, some apiCluster) := by
  decide +kernel

theorem waits_unblocked_iff_connectFails :
    ∃ state, retryingState (.enabled twoAttempts) narrowUpstream = .ok state ∧
      (finalState connectFailsAgain state).stage.waitsFor = some apiCluster ∧
      (finalState connectFailsAgain state).attempts.length = 2 ∧
      (finalState connectFailsAgain state).ctx.poolPermit ≠ some apiCluster ∧
      (finalState connectFailsAgain state).ctx.circuitBreakerPermit ≠ some apiCluster := by
  have evaluated : (retryingState (.enabled twoAttempts) narrowUpstream).map
      (fun state => ((finalState connectFailsAgain state).stage.waitsFor,
        (finalState connectFailsAgain state).attempts.length,
        (finalState connectFailsAgain state).ctx.isRetrying)) =
      .ok (some apiCluster, 2, true) := by
    decide +kernel
  obtain ⟨state, built, facts⟩ := exists_of_map_eq_ok evaluated
  simp only [Prod.mk.injEq] at facts
  obtain ⟨waits, begun, retrying⟩ := facts
  exact ⟨state, built, waits, begun,
    (waits_unblocked_iff state plainRequest (trace_isRun requestStep _ connectFailsAgain)
      (visits_final _ _) waits).mpr (Or.inr retrying)⟩

/-! ### What the cluster is told -/

def Attempt.outcome (attempt : Attempt) : Option (EndpointAddr × UpstreamOutcome) :=
  attempt.endpoint.map fun endpoint =>
    (endpoint, if attempt.failed then .failure else .success)

def Attempt.outcomes (attempts : List Attempt) : List (EndpointAddr × UpstreamOutcome) :=
  (attempts.filterMap outcome).reverse

def AllFailed (attempts : List Attempt) : Prop :=
  ∀ attempt ∈ attempts, attempt.failed = true

/-- The newest attempt selected an endpoint, and those before it failed. -/
def Selecting (attempts : List Attempt) (newest : Attempt) : Prop :=
  ∃ endpoint earlier, attempts = newest :: earlier ∧ newest.endpoint = some endpoint ∧
    AllFailed earlier

def RequestSystem.Staged (system : RequestSystem) : Stage → Prop
  | .fresh | .responded | .ready => system.attempts = []
  | .waitingPool ref | .waitingBreaker ref =>
    system.ctx.cluster = some ref ∧
      (clusterAt system.states ref).isSome = true ∧
      ∃ earlier, system.attempts = Attempt.new :: earlier ∧ AllFailed earlier
  | .proxying => ∃ newest, Selecting system.attempts newest
  | .answered status =>
    ∃ newest, Selecting system.attempts newest ∧ newest.failed = decide (500 ≤ status.value)
  | .refused _ => AllFailed system.attempts
  | .failed _ => ∃ newest, Selecting system.attempts newest ∧ newest.failed = true
  | .closed => system.recorded = (system.attempts.findSome? Attempt.outcome).toList

structure Traced (system : RequestSystem) : Prop where
  selected : system.ctx.upstreamEndpoint = system.attempts.findSome? Attempt.endpoint
  placed : system.ctx.upstreamEndpoint ≠ none → ∃ ref, system.ctx.cluster = some ref ∧
    (clusterAt system.states ref).isSome = true
  unrecorded : system.stage ≠ .closed → system.recorded = []
  staged : system.Staged system.stage

variable {newest : Attempt}

theorem Selecting.allFailed (selecting : Selecting attempts newest)
    (failed : newest.failed = true) : AllFailed attempts := by
  obtain ⟨endpoint, earlier, rfl, _, before⟩ := selecting
  intro attempt member
  rcases List.mem_cons.mp member with rfl | later
  · exact failed
  · exact before attempt later

theorem Selecting.mark (selecting : Selecting attempts newest) (failed : Bool) :
    Selecting (Attempt.mark failed attempts) { newest with failed := failed } := by
  obtain ⟨endpoint, earlier, rfl, selected, before⟩ := selecting
  exact ⟨endpoint, earlier, rfl, selected, before⟩

private theorem endpoint_mark (failed : Bool) (attempts : List Attempt) :
    (Attempt.mark failed attempts).findSome? Attempt.endpoint =
      attempts.findSome? Attempt.endpoint := by
  cases attempts with
  | nil | cons => rfl

private theorem outcome_of_allFailed (failed : AllFailed attempts) :
    attempts.findSome? Attempt.outcome =
      (attempts.findSome? Attempt.endpoint).map fun endpoint => (endpoint, .failure) := by
  induction attempts with
  | nil => rfl
  | cons attempt earlier ih =>
    have newest := failed attempt List.mem_cons_self
    rw [List.findSome?_cons, List.findSome?_cons]
    unfold Attempt.outcome
    cases attempt.endpoint with
    | none => exact ih fun other member => failed other (List.mem_cons_of_mem attempt member)
    | some =>
      rw [newest]
      rfl

private theorem outcome_of_selecting (selecting : Selecting attempts newest) :
    ∃ endpoint, attempts.findSome? Attempt.endpoint = some endpoint ∧
      attempts.findSome? Attempt.outcome =
        some (endpoint, if newest.failed then .failure else .success) := by
  obtain ⟨endpoint, earlier, rfl, selected, _⟩ := selecting
  refine ⟨endpoint, ?_, ?_⟩
  · rw [List.findSome?_cons, selected]
  · rw [List.findSome?_cons]
    unfold Attempt.outcome
    rw [selected]
    rfl

namespace Traced

variable {system : RequestSystem}

private theorem allFailed_of_starts (traced : Traced system)
    (starts : system.stage.startsAttempt = true) : AllFailed system.attempts := by
  have staged := traced.staged
  rcases startsAttempt_cases starts with ready | refused | failed
  · rw [ready] at staged
    change system.attempts = [] at staged
    rw [staged]
    exact nofun
  · rw [refused] at staged
    exact staged
  · rw [failed] at staged
    obtain ⟨newest, selecting, isFailed⟩ := staged
    exact selecting.allFailed isFailed

theorem selecting_of_inFlight (traced : Traced system) (flies : system.stage.inFlight = true) :
    ∃ newest, Selecting system.attempts newest := by
  have staged := traced.staged
  cases stage : system.stage with
  | proxying =>
    rw [stage] at staged
    exact staged
  | answered | failed =>
    rw [stage] at staged
    obtain ⟨newest, selecting, _⟩ := staged
    exact ⟨newest, selecting⟩
  | _ =>
    rw [stage] at flies
    cases flies

theorem of_waiting (traced : Traced system) {ref : ClusterRef}
    (waits : system.stage.waitsFor = some ref) :
    system.ctx.cluster = some ref ∧
      (clusterAt system.states ref).isSome = true ∧
      ∃ earlier, system.attempts = Attempt.new :: earlier ∧ AllFailed earlier := by
  have staged := traced.staged
  cases stage : system.stage with
  | waitingPool | waitingBreaker =>
    rw [stage] at waits staged
    cases waits
    exact staged
  | _ =>
    rw [stage] at waits
    cases waits

theorem selects (traced : Traced system) {ref : ClusterRef}
    (waits : system.stage.waitsFor = some ref) (endpoint : EndpointAddr) :
    (Attempt.select endpoint system.attempts).findSome? Attempt.endpoint = some endpoint ∧
      Selecting (Attempt.select endpoint system.attempts)
        { Attempt.new with endpoint := some endpoint } := by
  obtain ⟨_, _, earlier, attempts, allFailed⟩ := traced.of_waiting waits
  rw [attempts]
  exact ⟨rfl, endpoint, earlier, rfl, rfl, allFailed⟩

private theorem recorded_of {α : Type} (traced : Traced system) {test : Stage → α} {value : α}
    (standing : test system.stage = value) (differs : test .closed ≠ value) :
    system.recorded = [] := by
  apply traced.unrecorded
  intro isClosed
  rw [isClosed] at standing
  exact differs standing

end Traced

namespace RequestContext

private theorem upstreamEndpoint_beginning (ctx : RequestContext) :
    ctx.beginning.upstreamEndpoint = ctx.upstreamEndpoint := by
  unfold beginning
  split <;> rfl

theorem Charges.upstreamEndpoint_eq {ctx after : RequestContext} (charges : ctx.Charges after) :
    after.upstreamEndpoint = ctx.upstreamEndpoint := by
  obtain ⟨retryCtx, now, present, more, rfl⟩ := charges
  rfl

end RequestContext

theorem AllFailed.mark {attempt : Attempt} {earlier : List Attempt} (failed : AllFailed earlier) :
    AllFailed (Attempt.mark true (attempt :: earlier)) := by
  intro other member
  rcases List.mem_cons.mp member with rfl | later
  · rfl
  · exact failed other later

private theorem outcome_of_status (status : StatusCode) :
    outcome false (some status) =
      if decide (500 ≤ status.value) = true then .failure else .success := by
  have lower := status.lower
  by_cases serverError : 500 ≤ status.value
  · simp [outcome, serverError]
  · have positive : 0 < status.value := by omega
    simp [outcome, serverError, positive]

/-- A context that still names what the newest selecting attempt selected. -/
structure Keeps (before : RequestSystem) (states : List MaterializedRuntimeConfig)
    (ctx : RequestContext) : Prop where
  endpoint : ctx.upstreamEndpoint = before.ctx.upstreamEndpoint
  cluster : ctx.cluster = before.ctx.cluster
  clusters : KeepsClusters before.states states

theorem Keeps.beginning (before : RequestSystem) :
    Keeps before before.states before.ctx.beginning :=
  ⟨before.ctx.upstreamEndpoint_beginning, before.ctx.cluster_beginning, fun _ here => here⟩

theorem Keeps.placed {before : RequestSystem} {states : List MaterializedRuntimeConfig}
    {ctx : RequestContext} (keeps : Keeps before states ctx) (traced : Traced before) :
    ctx.upstreamEndpoint ≠ none → ∃ ref, ctx.cluster = some ref ∧
      (clusterAt states ref).isSome = true := by
  intro selected
  rw [keeps.endpoint] at selected
  obtain ⟨ref, routed, present⟩ := traced.placed selected
  exact ⟨ref, keeps.cluster.trans routed, keeps.clusters ref present⟩

section

variable {before after : RequestSystem} {action : RequestAction} {output : Option ProxyError}

private theorem staged_kept {states : List MaterializedRuntimeConfig} {truncated : Bool}
    (kept : KeepsClusters before.states states) {stage : Stage} (staged : before.Staged stage) :
    ({ before with states := states, retryBufferTruncated := truncated } :
      RequestSystem).Staged stage := by
  cases stage with
  | waitingPool ref | waitingBreaker ref => exact ⟨staged.1, kept ref staged.2.1, staged.2.2⟩
  | _ => exact staged

theorem Traced.recorded_at_end (traced : Traced before) {failed : Bool}
    {written : Option StatusCode} (stops : EndsWith before.stage failed written)
    {recorded : List (EndpointAddr × UpstreamOutcome)}
    (silent : before.ctx.upstreamEndpoint = none → recorded = before.recorded)
    (records : ∀ endpoint ref, before.ctx.upstreamEndpoint = some endpoint →
      before.ctx.cluster = some ref →
      (clusterAt before.states ref).isSome = true →
      recorded = before.recorded ++ [(endpoint, outcome failed written)]) :
    recorded = (before.attempts.findSome? Attempt.outcome).toList := by
  have staged := traced.staged
  have unrecorded : before.recorded = [] := by
    apply traced.unrecorded
    intro isClosed
    rw [isClosed] at stops
    rcases stops with ended | ⟨_, ended, _⟩ | ⟨⟨_, ended | ended⟩, _⟩ <;> cases ended
  rw [unrecorded] at silent records
  have told : ∀ endpoint, before.ctx.upstreamEndpoint = some endpoint →
      recorded = [(endpoint, outcome failed written)] := by
    intro endpoint selected
    obtain ⟨ref, routed, present⟩ := traced.placed (by rw [selected]; exact nofun)
    exact records endpoint ref selected routed present
  have fromFailures : AllFailed before.attempts → failed = true →
      recorded = (before.attempts.findSome? Attempt.outcome).toList := by
    intro allFailed isFailed
    rw [outcome_of_allFailed allFailed, ← traced.selected]
    cases selected : before.ctx.upstreamEndpoint with
    | none => exact silent selected
    | some endpoint =>
      rw [told endpoint selected, isFailed]
      rfl
  rcases stops with responded | ⟨status, answered, rfl, rfl⟩ | ⟨⟨retry, refused | failed⟩, isFailed⟩
  · rw [responded] at staged
    change before.attempts = [] at staged
    have unselected := traced.selected
    rw [staged] at unselected ⊢
    exact silent unselected
  · rw [answered] at staged
    obtain ⟨newest, selecting, isFailed⟩ := staged
    obtain ⟨endpoint, selected, outcome⟩ := outcome_of_selecting selecting
    rw [outcome, told endpoint (traced.selected.trans selected), outcome_of_status, isFailed]
    rfl
  · rw [refused] at staged
    exact fromFailures staged isFailed
  · rw [failed] at staged
    obtain ⟨newest, selecting, newestFailed⟩ := staged
    exact fromFailures (selecting.allFailed newestFailed) isFailed

theorem Moves.traced (moves : Moves before action after output) (traced : Traced before) :
    Traced { after with asked := after.asked + (asksRetry output).toNat } := by
  cases moves with
  | elsewhere states truncated kept =>
    have keeps : Keeps before states before.ctx := ⟨rfl, rfl, kept⟩
    exact ⟨traced.selected, keeps.placed traced, traced.unrecorded,
      staged_kept kept traced.staged⟩
  | receives ctx stage fresh unattempted leads =>
    have unstarted := traced.staged
    rw [fresh] at unstarted
    change before.attempts = [] at unstarted
    refine ⟨?_, fun selected => absurd unattempted.endpoint selected, ?_, ?_⟩
    · change ctx.upstreamEndpoint = before.attempts.findSome? Attempt.endpoint
      rw [unstarted, unattempted.endpoint]
      rfl
    · intro _
      exact traced.unrecorded (by rw [fresh]; exact nofun)
    · rcases leads with rfl | rfl <;> exact unstarted
  | begins ref starts routed present =>
    have keeps := Keeps.beginning before
    exact ⟨keeps.endpoint.trans traced.selected, keeps.placed traced,
      fun _ => traced.recorded_of starts Bool.false_ne_true, keeps.cluster.trans routed, present,
      before.attempts, rfl, traced.allFailed_of_starts starts⟩
  | refusesAtOnce ctx error starts kept =>
    have keeps : Keeps before before.states ctx := by
      rcases kept with rfl | rfl
      · exact ⟨rfl, rfl, fun _ here => here⟩
      · exact Keeps.beginning before
    exact ⟨keeps.endpoint.trans traced.selected, keeps.placed traced,
      fun _ => traced.recorded_of starts Bool.false_ne_true,
      (traced.allFailed_of_starts starts).mark⟩
  | grants ref waiting =>
    have waits := waitsFor_waitingPool waiting
    exact ⟨traced.selected, traced.placed, fun _ => traced.recorded_of waits nofun,
      traced.of_waiting waits⟩
  | refusesPermit ref states ctx error waits kept spent =>
    obtain ⟨routed, present, earlier, attempts, allFailed⟩ := traced.of_waiting waits
    have keeps : Keeps before states ctx := by
      rcases spent with ⟨_, charges⟩ | ⟨_, rfl | rfl⟩
      · exact ⟨charges.upstreamEndpoint_eq, charges.cluster_eq.1, kept⟩
      · exact ⟨rfl, rfl, kept⟩
      · exact ⟨rfl, rfl, kept⟩
    refine ⟨?_, keeps.placed traced, fun _ => traced.recorded_of waits nofun, ?_⟩
    · exact keeps.endpoint.trans (traced.selected.trans (endpoint_mark true _).symm)
    · change AllFailed (Attempt.mark true before.attempts)
      rw [attempts]
      exact allFailed.mark
  | refusesPeer ref states endpoint permit error waiting kept =>
    have waits := waitsFor_waitingBreaker waiting
    obtain ⟨routed, present, _⟩ := traced.of_waiting waits
    obtain ⟨found, selecting⟩ := traced.selects waits endpoint
    exact ⟨((endpoint_mark true _).trans found).symm, fun _ => ⟨ref, routed, kept ref present⟩,
      fun _ => traced.recorded_of waits nofun, (selecting.mark true).allFailed rfl⟩
  | connects ref states endpoint permit waiting kept =>
    have waits := waitsFor_waitingBreaker waiting
    obtain ⟨routed, present, _⟩ := traced.of_waiting waits
    obtain ⟨found, selecting⟩ := traced.selects waits endpoint
    exact ⟨found.symm, fun _ => ⟨ref, routed, kept ref present⟩,
      fun _ => traced.recorded_of waits nofun, _, selecting⟩
  | fails result flies spent =>
    obtain ⟨newest, selecting⟩ := traced.selecting_of_inFlight flies
    have keeps : Keeps before before.states result.1 := by
      rcases spent with charges | ⟨same, _⟩
      · exact ⟨charges.upstreamEndpoint_eq, charges.cluster_eq.1, fun _ here => here⟩
      · rw [same]
        exact ⟨rfl, rfl, fun _ here => here⟩
    refine ⟨?_, keeps.placed traced, fun _ => traced.recorded_of flies Bool.false_ne_true, ?_⟩
    · exact keeps.endpoint.trans (traced.selected.trans (endpoint_mark true _).symm)
    · exact ⟨_, selecting.mark true, rfl⟩
  | answers status flies =>
    obtain ⟨newest, selecting⟩ := traced.selecting_of_inFlight flies
    refine ⟨traced.selected.trans (endpoint_mark _ _).symm, traced.placed,
      fun _ => traced.recorded_of flies Bool.false_ne_true, ?_⟩
    exact ⟨_, selecting.mark _, rfl⟩
  | ends failed written states recorded stops kept silent records =>
    have keeps : Keeps before states before.ctx.dropPermits := ⟨rfl, rfl, kept⟩
    exact ⟨traced.selected, keeps.placed traced, fun unfinished => absurd rfl unfinished,
      traced.recorded_at_end stops silent records⟩

end

private theorem traced_start (state : MaterializedRuntimeConfig) (request : Request) :
    Traced (RequestSystem.start state request) :=
  ⟨rfl, fun selected => absurd rfl selected, fun _ => rfl, rfl⟩

theorem Traced.step (step : RequestStep)
    (accepted : step.Accepted requestStep) (traced : Traced step.before) : Traced step.after := by
  obtain ⟨moved, moves, same⟩ := requestStep_moves accepted
  rw [same]
  exact moves.traced traced

private theorem head_eq_reverse_iff {α : Type} (items : List α) :
    items.head?.toList = items.reverse ↔ items.length ≤ 1 := by
  cases items with
  | nil => simp
  | cons first rest =>
    cases rest with
    | nil => simp
    | cons =>
      constructor
      · intro same
        have lengths := congrArg List.length same
        simp at lengths
      · intro short
        simp at short

/-- When a request is over its cluster was told the outcome of every attempt that
selected an endpoint exactly when there was at most one of them. -/
theorem outcomes_recorded_iff (state : MaterializedRuntimeConfig) (request : Request)
    {steps : List (Step RequestSystem RequestAction (Option ProxyError))}
    (isRun : IsRun requestStep (RequestSystem.start state request) steps)
    {visited : RequestSystem} (visits : Visits (RequestSystem.start state request) steps visited)
    (isClosed : visited.stage = .closed) :
    visited.recorded = Attempt.outcomes visited.attempts ↔
      visited.attempts.countP (fun attempt => attempt.endpoint.isSome) ≤ 1 := by
  have traced := isRun.invariant_visited Traced (traced_start state request) Traced.step visits
  have staged := traced.staged
  rw [isClosed] at staged
  change visited.recorded = (visited.attempts.findSome? Attempt.outcome).toList at staged
  have counted : visited.attempts.countP (fun attempt => attempt.endpoint.isSome) =
      (visited.attempts.filterMap Attempt.outcome).length := by
    rw [List.length_filterMap_eq_countP]
    congr 1
    funext attempt
    unfold Attempt.outcome
    rw [Option.isSome_map]
  unfold Attempt.outcomes
  rw [staged, ← List.head?_filterMap, head_eq_reverse_iff, counted]

def secondEndpoint : Endpoint :=
  { address := .ip (.v4 10 0 0 2) (.constant 80), weight := .constant 1 }

def ejectingUpstream : Upstream :=
  { apiUpstream [firstEndpoint, secondEndpoint] with
    outlierDetection := .enabled (.constant 1) (.constant 1000) }

def answersOk : List RequestAction :=
  [.responseFilter (.constant 200) 0, .logging (some (.constant 200)) (.at 0)]

def failsThenAnswers : List RequestAction :=
  .receive none plainInputs :: obtainPeer ++ connectFails :: obtainPeer ++ answersOk

def answersAtOnce : List RequestAction := .receive none plainInputs :: obtainPeer ++ answersOk

/-- The endpoint of the first attempt failed and is not told on, so it is not ejected. -/
theorem failed_attempt_unrecorded :
    (retryingState (.enabled twoAttempts) ejectingUpstream).map
        (fun state => (finalState failsThenAnswers state).recorded) =
      .ok [(secondEndpoint.address, .success)] ∧
    (retryingState (.enabled twoAttempts) ejectingUpstream).map
        (fun state => Attempt.outcomes (finalState failsThenAnswers state).attempts) =
      .ok [(firstEndpoint.address, .failure), (secondEndpoint.address, .success)] ∧
    (retryingState (.enabled twoAttempts) ejectingUpstream).map
        (fun state => (RequestSystem.clusterAt (finalState failsThenAnswers state).states
          apiCluster).map fun cluster => cluster.state.endpoints) =
      .ok (some [firstEndpoint, secondEndpoint]) := by
  refine ⟨?_, ?_, ?_⟩ <;> decide +kernel

theorem outcomes_recorded_iff_answersAtOnce :
    ∃ state, retryingState (.enabled twoAttempts) ejectingUpstream = .ok state ∧
      (finalState answersAtOnce state).stage = .closed ∧
      (finalState answersAtOnce state).recorded =
        Attempt.outcomes (finalState answersAtOnce state).attempts := by
  have evaluated : (retryingState (.enabled twoAttempts) ejectingUpstream).map
      (fun state => ((finalState answersAtOnce state).stage,
        (finalState answersAtOnce state).attempts.countP
          fun attempt => attempt.endpoint.isSome)) = .ok (.closed, 1) := by
    decide +kernel
  obtain ⟨state, built, facts⟩ := exists_of_map_eq_ok evaluated
  simp only [Prod.mk.injEq] at facts
  obtain ⟨isClosed, single⟩ := facts
  exact ⟨state, built, isClosed,
    (outcomes_recorded_iff state plainRequest (trace_isRun requestStep _ answersAtOnce)
      (visits_final _ _) isClosed).mpr (Nat.le_of_eq single)⟩

end Pavis.Proxy
