/-
When an endpoint is ejected, and for how long.

The counter of an endpoint is reset in three places: by a success, by the ejection it
leads to, and when an expired ejection is cleared.
-/

import Pavis.Upstream.HealthMonitor
import Pavis.Upstream.StatusSteps

namespace Pavis.Upstream

open Config KeyedMap LabelledRun
open EndpointKey (fromEndpoint)

def ejectionCleared (key : EndpointKey) (step : ClusterStep) : Bool :=
  (deadline key step.before).isSome && deadline key step.after = none

def resets (key : EndpointKey) (step : ClusterStep) : Bool :=
  step.label.reports .success key || becomesEjected key step || ejectionCleared key step

/-- The failures of an endpoint since its last success, its last ejection and the last
clearing of one. -/
def failuresSince (key : EndpointKey) (history : List ClusterStep) : Nat :=
  countSince (resets key) (fun step => step.label.reports .failure key) history

/-- The counter is the number of failures since the last reset, and falls short of the
threshold while no ejection is recorded. -/
structure Tallied (threshold failures : Nat) (status : EndpointStatus) : Prop where
  counted : status.consecutiveErrors = min failures (2 ^ 32 - 1)
  short : status.ejectedUntil = none → failures < threshold

theorem ClusterAction.failure_of_success {action : ClusterAction} {key : EndpointKey}
    (succeeds : action.reports .success key = true) : action.reports .failure key = false := by
  cases action with
  | pass => rfl
  | call readings made =>
    cases made with
    | updateEndpoints | setActiveHealth | selectEndpoint => rfl
    | recordOutcome =>
      obtain ⟨_, rfl⟩ := of_decide_eq_true succeeds
      exact decide_eq_false fun both => nomatch both.2

private theorem failuresSince_append_singleton (key : EndpointKey) (history : List ClusterStep)
    (step : ClusterStep) :
    failuresSince key (history ++ [step]) =
      if resets key step then 0
      else failuresSince key history + (step.label.reports .failure key).toNat :=
  countSince_append_singleton (resets key) _ history step

section Turned

variable {threshold ejectFor : Nat} {key : EndpointKey} {step : ClusterStep}
  {before after : EndpointStatus}

theorem Tallied.bumped_eq {failures : Nat} (bounded : threshold < 2 ^ 32)
    (tallied : Tallied threshold failures before) (free : before.ejectedUntil = none) :
    failures < threshold ∧ before.bumped = failures + 1 := by
  have short := tallied.short free
  refine ⟨short, ?_⟩
  unfold EndpointStatus.bumped
  rw [tallied.counted]
  omega

private theorem uncleared (same : after.ejectedUntil = before.ejectedUntil) :
    (before.ejectedUntil.isSome && decide (after.ejectedUntil = none)) = false := by
  rw [same]
  cases before.ejectedUntil <;> rfl

section

variable (turns : Turns threshold ejectFor key step before after)

include turns

theorem Turns.tallied (foundBefore : deadline key step.before = before.ejectedUntil)
    (foundAfter : deadline key step.after = after.ejectedUntil) (positive : 0 < threshold)
    (bounded : threshold < 2 ^ 32) {history : List ClusterStep}
    (tallied : Tallied threshold (failuresSince key history) before) :
    Tallied threshold (failuresSince key (history ++ [step])) after := by
  rw [failuresSince_append_singleton]
  unfold resets ejectionCleared
  rw [foundBefore, foundAfter]
  cases turns with
  | counts fails kept short recorded counted =>
    have silent : step.label.reports .success key = false := by
      cases succeeds : step.label.reports .success key with
      | false => rfl
      | true => exact absurd fails (by rw [ClusterAction.failure_of_success succeeds]; simp)
    rw [silent, kept, uncleared recorded, fails, Bool.or_false, Bool.or_false,
      if_neg Bool.false_ne_true, Bool.toNat_true]
    constructor
    · rw [counted, EndpointStatus.bumped, tallied.counted]
      omega
    · intro free
      rw [recorded] at free
      have below := short free
      rw [(tallied.bumped_eq bounded free).2] at below
      exact below
  | ejects fails begins free reached fades =>
    rw [begins, Bool.or_true, Bool.true_or, if_pos rfl]
    exact ⟨fades.zero rfl, fun _ => positive⟩
  | succeeds succeeds kept fades =>
    rw [succeeds, Bool.true_or, Bool.true_or, if_pos rfl]
    exact ⟨fades.zero rfl, fun _ => positive⟩
  | passes silent kept fades =>
    rw [silent, silent, kept, Bool.or_false, Bool.false_or, Bool.toNat_false, Nat.add_zero]
    rcases fades with ⟨sameDeadline, sameErrors⟩ | ⟨⟨due, _, recorded⟩, gone, zero⟩
    · rw [uncleared sameDeadline, if_neg Bool.false_ne_true]
      refine ⟨sameErrors.trans tallied.counted, fun free => tallied.short ?_⟩
      rw [← sameDeadline]
      exact free
    · rw [recorded, gone]
      exact ⟨zero, fun _ => positive⟩

theorem Turns.ejects_iff (bounded : threshold < 2 ^ 32) {failures : Nat}
    (tallied : Tallied threshold failures before) :
    becomesEjected key step = true ↔
      step.label.reports .failure key = true ∧ before.ejectedUntil = none ∧
        failures + 1 = threshold := by
  cases turns with
  | counts fails kept short =>
    rw [kept]
    refine ⟨fun begins => (Bool.false_ne_true begins).elim, fun ⟨_, free, reached⟩ => ?_⟩
    have below := short free
    rw [(tallied.bumped_eq bounded free).2] at below
    omega
  | ejects fails begins free =>
    obtain ⟨short, bumped⟩ := tallied.bumped_eq bounded free
    exact ⟨fun _ => ⟨fails, free, by omega⟩, fun _ => begins⟩
  | succeeds succeeds kept =>
    rw [kept, ClusterAction.failure_of_success succeeds]
    simp
  | passes silent kept =>
    rw [kept, silent]
    simp

theorem Turns.lasts {ends : Instant} (recorded : before.ejectedUntil = some ends)
    (ahead : step.after.clock < ends) : after.ejectedUntil = some ends := by
  cases turns with
  | counts fails _ short same => exact same.trans recorded
  | ejects fails begins free =>
    rw [free] at recorded
    cases recorded
  | succeeds succeeds _ fades | passes silent _ fades => exact fades.lasts recorded ahead

theorem Turns.begun (begins : becomesEjected key step = true) :
    after.ejectedUntil = some (step.label.instant + ejectFor) ∨
      after.ejectedUntil = none ∧ step.label.instant + ejectFor ≤ step.after.clock := by
  cases turns with
  | counts _ kept | succeeds _ kept | passes _ kept =>
    rw [kept] at begins
    cases begins
  | ejects fails _ free reached fades =>
    rcases fades with ⟨same, _⟩ | ⟨⟨due, reached, recorded⟩, gone, _⟩
    · exact .inl same
    · obtain rfl := Option.some.inj recorded
      exact .inr ⟨gone, reached⟩

theorem Turns.unejected (kept : becomesEjected key step = false) :
    after.ejectedUntil = before.ejectedUntil ∨ after.ejectedUntil = none := by
  cases turns with
  | counts fails _ short recorded => exact .inl recorded
  | ejects fails begins =>
    rw [kept] at begins
    cases begins
  | succeeds succeeds _ fades | passes silent _ fades => exact fades.deadline

end

end Turned

/-! ### Runs -/

namespace ClusterSystem

theorem config_of_accepted {step : ClusterStep} (accepted : step.Accepted ClusterSystem.step) :
    step.after.cluster.config = step.before.cluster.config := by
  obtain ⟨before, action, after, selected⟩ := step
  change ClusterSystem.step before action = some (after, selected) at accepted
  cases action with
  | pass =>
    obtain ⟨_, rfl⟩ := pass_of_accepted accepted
    rfl
  | call readings call =>
    change after.cluster.config = _
    rw [cluster_of_accepted accepted]
    exact before.cluster.perform_config readings call

theorem clock_of_accepted {step : ClusterStep} (accepted : step.Accepted ClusterSystem.step) :
    step.before.clock ≤ step.after.clock := by
  refine Nat.le_trans ?_ (instant_of_accepted accepted)
  obtain ⟨before, action, after, selected⟩ := step
  cases action with
  | pass => exact (pass_of_accepted accepted).1
  | call => exact (call_of_accepted accepted).1

end ClusterSystem

theorem HealthState.insertDefault_default (endpoints : List Endpoint)
    {statuses : Map EndpointKey EndpointStatus}
    (default : ∀ key status, statuses.lookup key = some status → status = {}) :
    ∀ key status, (endpoints.foldl insertDefault statuses).lookup key = some status →
      status = {} := by
  induction endpoints generalizing statuses with
  | nil => exact default
  | cons endpoint rest ih =>
    apply ih
    intro key status found
    unfold insertDefault at found
    by_cases same : key = fromEndpoint endpoint
    · rw [same, AList.lookup_insert] at found
      exact (Option.some.inj found).symm
    · rw [AList.lookup_insert_ne same] at found
      exact default key status found

theorem HealthState.lookup_new {endpoints : List Endpoint} {endpoint : Endpoint}
    (listed : endpoint ∈ endpoints) :
    (new endpoints).statuses.lookup (fromEndpoint endpoint) = some {} := by
  obtain ⟨status, found⟩ := tracked_new endpoints endpoint listed
  have plain : status = {} := by
    refine insertDefault_default endpoints ?_ _ _ found
    intro key other absent
    rw [AList.lookup_empty] at absent
    cases absent
  rw [found, plain]

/-- Outcomes are recorded, and the endpoint has a status with a property. -/
structure Watched (errors : NonZeroU32) (duration : Duration) (key : EndpointKey)
    (property : EndpointStatus → Prop) (system : ClusterSystem) : Prop where
  enabled : system.cluster.config.outlierDetection = .enabled errors duration
  status : ∃ status, system.cluster.health.statuses.lookup key = some status ∧ property status

section Watching

variable {errors : NonZeroU32} {duration : Duration} {key : EndpointKey}
  {property next : EndpointStatus → Prop}

theorem Watched.mono {system : ClusterSystem}
    (watched : Watched errors duration key property system)
    (weaker : ∀ status, property status → next status) :
    Watched errors duration key next system := by
  obtain ⟨enabled, status, found, holds⟩ := watched
  exact ⟨enabled, status, found, weaker status holds⟩

theorem Watched.step {step : ClusterStep} (accepted : step.Accepted ClusterSystem.step)
    (keeps : step.label.keepsEndpoints = true)
    (watched : Watched errors duration key property step.before)
    (carried : ∀ before after, deadline key step.before = before.ejectedUntil →
      deadline key step.after = after.ejectedUntil →
      Turns errors.value (duration.value * 1000000) key step before after →
      property before → next after) : Watched errors duration key next step.after := by
  obtain ⟨enabled, status, found, holds⟩ := watched
  obtain ⟨after, foundAfter, turns⟩ := ClusterSystem.turns accepted keeps enabled found
  refine ⟨(congrArg _ (ClusterSystem.config_of_accepted accepted)).trans enabled, after,
    foundAfter, ?_⟩
  exact carried status after (HealthState.deadline_of_lookup found)
    (HealthState.deadline_of_lookup foundAfter) turns holds

private theorem watched_new {config : Upstream} {endpoint : Endpoint}
    (enabled : config.outlierDetection = .enabled errors duration)
    (listed : endpoint ∈ config.endpoints) (now : Instant) :
    Watched errors duration (fromEndpoint endpoint)
      (Tallied errors.value (failuresSince (fromEndpoint endpoint) []))
      (ClusterSystem.new config now) := by
  refine ⟨enabled, {}, HealthState.lookup_new listed, rfl, fun _ => errors.positive⟩

private theorem tallied_final {state : ClusterSystem} {steps : List ClusterStep}
    (isRun : IsRun ClusterSystem.step state steps)
    (keeps : ∀ step ∈ steps, step.label.keepsEndpoints = true)
    (start : Watched errors duration key
      (Tallied errors.value (failuresSince key [])) state) :
    Watched errors duration key (Tallied errors.value (failuresSince key steps))
      (final state steps) := by
  refine isRun.history_from
    (fun history system =>
      Watched errors duration key (Tallied errors.value (failuresSince key history)) system)
    start (fun step => step.label.keepsEndpoints = true) keeps ?_
  intro history step accepted guard watched
  refine watched.step accepted guard fun before after foundBefore foundAfter turns tallied => ?_
  exact turns.tallied foundBefore foundAfter errors.positive errors.bounded tallied

end Watching

theorem ClusterSystem.Coherent.unlisted {system : ClusterSystem} (coherent : system.Coherent)
    {key : EndpointKey} {ends : Instant} (recorded : deadline key system = some ends)
    (ahead : system.clock < ends) :
    ∀ endpoint ∈ system.cluster.state.endpoints, fromEndpoint endpoint ≠ key := by
  intro endpoint listed spelled
  rw [coherent.published.listed] at listed
  have available := (List.mem_filter.1 listed).2
  rw [HealthState.available_of_standing coherent.standing] at available
  obtain ⟨status, found, _, served⟩ := HealthState.status_of_available available
  rw [spelled] at found
  have due := served ends ((HealthState.deadline_of_lookup found).symm.trans recorded)
  exact absurd ahead (Nat.not_lt_of_le (Nat.le_trans due coherent.earlier))

theorem ClusterSystem.Coherent.listed_by_selection {step : ClusterStep}
    (accepted : step.Accepted ClusterSystem.step) (coherent : step.before.Coherent)
    {readings : Readings} {draw : Nat}
    (selects : step.label = .call readings (.selectEndpoint draw))
    {endpoint : Endpoint} (current : endpoint ∈ step.before.cluster.currentEndpoints)
    {status : EndpointStatus}
    (found : step.before.cluster.health.statuses.lookup (fromEndpoint endpoint) =
      some status)
    (healthy : status.activeHealth = .healthy)
    (due : ∀ ends, status.ejectedUntil = some ends → ends ≤ readings.first) :
    endpoint ∈ step.after.cluster.state.endpoints := by
  have reading := ClusterSystem.instant_of_accepted accepted
  obtain ⟨before, action, after, selected⟩ := step
  cases selects
  obtain ⟨ordered, same, _⟩ := ClusterSystem.call_of_accepted accepted
  have published := coherent.state_at_selection ordered draw
  change endpoint ∈ after.cluster.state.endpoints
  rw [ClusterSystem.cluster_of_accepted accepted]
  change endpoint ∈
    ((before.cluster.refreshExpiredEjections readings).1.pickEndpoint draw).1.state.endpoints
  rw [Cluster.pickEndpoint_kept, published, buildStateParts_endpoints]
  refine List.mem_filter.2 ⟨current, ?_⟩
  rw [← same]
  unfold HealthState.available
  rw [found, Option.any_some, healthy]
  cases recorded : status.ejectedUntil with
  | none => rfl
  | some ends => exact decide_eq_true (Nat.le_trans (due ends recorded) reading)

/-! ### The law -/

/-- When an ejection begins, how long it keeps the endpoint from being selected, and when
it ends. -/
structure EjectionLaw (threshold ejectFor : Nat) (key : EndpointKey) (steps : List ClusterStep) :
    Prop where
  begins : ∀ front step back, steps = front ++ step :: back →
    (becomesEjected key step = true ↔
      step.label.reports .failure key = true ∧ deadline key step.before = none ∧
        failuresSince key front + 1 = threshold)
  lasts : ∀ front step back, steps = front ++ step :: back → becomesEjected key step = true →
    ∀ system, Visits step.after back system → system.clock < step.label.instant + ejectFor →
      deadline key system = some (step.label.instant + ejectFor) ∧
        ∀ endpoint ∈ system.cluster.state.endpoints, fromEndpoint endpoint ≠ key
  ends : ∀ front step between later back, steps = front ++ step :: (between ++ later :: back) →
    becomesEjected key step = true → (∀ other ∈ between, becomesEjected key other = false) →
    ∀ readings draw, later.label = .call readings (.selectEndpoint draw) →
      step.label.instant + ejectFor ≤ readings.first →
      ∀ endpoint ∈ later.before.cluster.currentEndpoints,
        fromEndpoint endpoint = key →
        (∃ status, later.before.cluster.health.statuses.lookup key = some status ∧
          status.activeHealth = .healthy) →
        endpoint ∈ later.after.cluster.state.endpoints

section Law

variable {errors : NonZeroU32} {duration : Duration} {key : EndpointKey}

theorem Watched.begun {property : EndpointStatus → Prop} {step : ClusterStep}
    (accepted : step.Accepted ClusterSystem.step) (keeps : step.label.keepsEndpoints = true)
    (watched : Watched errors duration key property step.before)
    (begins : becomesEjected key step = true) :
    Watched errors duration key
      (fun status =>
        status.ejectedUntil = some (step.label.instant + duration.value * 1000000) ∨
          status.ejectedUntil = none ∧
            step.label.instant + duration.value * 1000000 ≤ step.after.clock)
      step.after :=
  watched.step accepted keeps fun _ _ _ _ turns _ => turns.begun begins

/-- An ejection on record, in force as long as its deadline lies ahead. -/
structure InForce (errors : NonZeroU32) (duration : Duration) (key : EndpointKey) (ends : Instant)
    (system : ClusterSystem) : Prop where
  watched : Watched errors duration key
    (fun status => system.clock < ends → status.ejectedUntil = some ends) system
  coherent : system.Coherent

variable {ends : Instant}

theorem InForce.step {step : ClusterStep} (accepted : step.Accepted ClusterSystem.step)
    (keeps : step.label.keepsEndpoints = true)
    (inForce : InForce errors duration key ends step.before) :
    InForce errors duration key ends step.after := by
  refine ⟨inForce.watched.step accepted keeps ?_, .step accepted inForce.coherent⟩
  intro before after _ _ turns recorded ahead
  have earlier := Nat.lt_of_le_of_lt (ClusterSystem.clock_of_accepted accepted) ahead
  exact turns.lasts (recorded earlier) ahead

theorem InForce.unlisted {system : ClusterSystem}
    (inForce : InForce errors duration key ends system) (ahead : system.clock < ends) :
    deadline key system = some ends ∧
      ∀ endpoint ∈ system.cluster.state.endpoints, fromEndpoint endpoint ≠ key := by
  obtain ⟨_, status, found, recorded⟩ := inForce.watched
  have same : deadline key system = some ends :=
    (HealthState.deadline_of_lookup found).trans (recorded ahead)
  exact ⟨same, inForce.coherent.unlisted same ahead⟩

/-- An ejection on record or cleared, with no other one since. -/
structure Latest (errors : NonZeroU32) (duration : Duration) (key : EndpointKey) (ends : Instant)
    (system : ClusterSystem) : Prop where
  watched : Watched errors duration key
    (fun status => status.ejectedUntil = some ends ∨ status.ejectedUntil = none) system
  coherent : system.Coherent

theorem Latest.step {step : ClusterStep} (accepted : step.Accepted ClusterSystem.step)
    (keeps : step.label.keepsEndpoints = true) (kept : becomesEjected key step = false)
    (latest : Latest errors duration key ends step.before) :
    Latest errors duration key ends step.after := by
  refine ⟨latest.watched.step accepted keeps ?_, .step accepted latest.coherent⟩
  intro before after _ _ turns recorded
  rcases turns.unejected kept with same | gone
  · rw [same]
    exact recorded
  · exact .inr gone

theorem Latest.listed {step : ClusterStep} (accepted : step.Accepted ClusterSystem.step)
    (latest : Latest errors duration key ends step.before) {readings : Readings} {draw : Nat}
    (selects : step.label = .call readings (.selectEndpoint draw)) (due : ends ≤ readings.first)
    {endpoint : Endpoint} (current : endpoint ∈ step.before.cluster.currentEndpoints)
    (spelled : fromEndpoint endpoint = key)
    (healthy : ∃ status, step.before.cluster.health.statuses.lookup key = some status ∧
      status.activeHealth = .healthy) : endpoint ∈ step.after.cluster.state.endpoints := by
  subst spelled
  obtain ⟨_, status, found, recorded⟩ := latest.watched
  obtain ⟨same, foundSame, active⟩ := healthy
  obtain rfl := Option.some.inj (found.symm.trans foundSame)
  refine latest.coherent.listed_by_selection accepted selects current found active ?_
  intro other noted
  rcases recorded with here | gone
  · obtain rfl := Option.some.inj (here.symm.trans noted)
    exact due
  · rw [gone] at noted
    cases noted

/-- A step of a run between the steps before it and those behind it. -/
structure Reached (errors : NonZeroU32) (duration : Duration) (key : EndpointKey)
    (front : List ClusterStep) (step : ClusterStep) (back : List ClusterStep) : Prop where
  watched : Watched errors duration key (Tallied errors.value (failuresSince key front)) step.before
  coherent : step.before.Coherent
  accepted : step.Accepted ClusterSystem.step
  keeps : step.label.keepsEndpoints = true
  isRun : IsRun ClusterSystem.step step.after back
  others : ∀ later ∈ back, later.label.keepsEndpoints = true

theorem reached {start : ClusterSystem} {front back : List ClusterStep} {step : ClusterStep}
    (isRun : IsRun ClusterSystem.step start (front ++ step :: back))
    (keeps : ∀ other ∈ front ++ step :: back, other.label.keepsEndpoints = true)
    (watched : Watched errors duration key (Tallied errors.value (failuresSince key [])) start)
    (coherent : start.Coherent) : Reached errors duration key front step back := by
  obtain ⟨before, accepted, isRunBack⟩ := isRun.around
  have earlier := isRun.append_left
  refine ⟨?_, ?_, accepted, keeps step (by simp), isRunBack, fun later member => ?_⟩
  · rw [before]
    exact tallied_final earlier (fun other member => keeps other (by simp [member])) watched
  · rw [before]
    exact earlier.invariant_visited ClusterSystem.Coherent coherent
      (fun _ => ClusterSystem.Coherent.step) (visits_final _ front)
  · exact keeps later (by simp [member])

variable {front back : List ClusterStep} {step : ClusterStep}

theorem Reached.begins (reached : Reached errors duration key front step back) :
    becomesEjected key step = true ↔
      step.label.reports .failure key = true ∧ deadline key step.before = none ∧
        failuresSince key front + 1 = errors.value := by
  obtain ⟨enabled, status, found, tallied⟩ := reached.watched
  obtain ⟨after, _, turns⟩ := ClusterSystem.turns reached.accepted reached.keeps enabled found
  rw [deadline, HealthState.deadline_of_lookup found]
  exact turns.ejects_iff errors.bounded tallied

theorem Reached.inForce (reached : Reached errors duration key front step back)
    (begins : becomesEjected key step = true) {system : ClusterSystem}
    (visits : Visits step.after back system) :
    InForce errors duration key (step.label.instant + duration.value * 1000000) system := by
  refine reached.isRun.guarded_visited _ ⟨?_, .step reached.accepted reached.coherent⟩
    (fun later => later.label.keepsEndpoints = true) reached.others
    (fun later accepted keeps inForce => inForce.step accepted keeps) visits
  refine (reached.watched.begun reached.accepted reached.keeps begins).mono ?_
  rintro status (recorded | ⟨_, due⟩) ahead
  · exact recorded
  · exact absurd ahead (Nat.not_lt_of_le due)

theorem Reached.latest {between : List ClusterStep} {later : ClusterStep}
    (reached : Reached errors duration key front step (between ++ later :: back))
    (begins : becomesEjected key step = true)
    (kept : ∀ other ∈ between, becomesEjected key other = false) :
    Latest errors duration key (step.label.instant + duration.value * 1000000) later.before ∧
      later.Accepted ClusterSystem.step := by
  obtain ⟨before, accepted, _⟩ := reached.isRun.around
  refine ⟨?_, accepted⟩
  rw [before]
  refine reached.isRun.append_left.guarded_visited _
    ⟨?_, .step reached.accepted reached.coherent⟩
    (fun other => other.label.keepsEndpoints = true ∧ becomesEjected key other = false)
    (fun other member => ⟨reached.others other (by simp [member]), kept other member⟩)
    (fun other accepted guard latest => latest.step accepted guard.1 guard.2)
    (visits_final _ between)
  refine (reached.watched.begun reached.accepted reached.keeps begins).mono ?_
  rintro status (recorded | ⟨gone, _⟩)
  · exact .inl recorded
  · exact .inr gone

end Law

/-- Over any calls that report outcomes, set the active health and select endpoints, an
endpoint becomes ejected at the failures that complete a run while no ejection of it is on
record. It is not published before the deadline, and it is published by the first
selection from then on unless it was ejected again. -/
theorem ejection_law (config : Upstream) (now : Instant) {errors : NonZeroU32}
    {duration : Duration} (enabled : config.outlierDetection = .enabled errors duration)
    {steps : List ClusterStep}
    (isRun : IsRun ClusterSystem.step (ClusterSystem.new config now) steps)
    (keeps : ∀ step ∈ steps, step.label.keepsEndpoints = true) {endpoint : Endpoint}
    (listed : endpoint ∈ config.endpoints) :
    EjectionLaw errors.value (duration.value * 1000000) (EndpointKey.fromEndpoint endpoint)
      steps := by
  have watched := watched_new enabled listed now
  have coherent := ClusterSystem.coherent_new config now
  constructor
  · rintro front step back rfl
    exact (reached isRun keeps watched coherent).begins
  · rintro front step back rfl begins system visits ahead
    exact ((reached isRun keeps watched coherent).inForce begins visits).unlisted ahead
  · rintro front step between later back rfl begins kept readings draw selects due
    obtain ⟨latest, accepted⟩ := (reached isRun keeps watched coherent).latest begins kept
    intro endpoint current spelled healthy
    exact latest.listed accepted selects due current spelled healthy

def firstAddress : EndpointAddr := .ip (.v4 127 0 0 1) (.constant 8080)

def secondAddress : EndpointAddr := .ip (.v4 127 0 0 2) (.constant 8080)

def firstKey : EndpointKey := EndpointKey.fromAddr firstAddress

def ejectionSteps : List ClusterStep :=
  trace ClusterSystem.step (ClusterSystem.new ejectingUpstream 0) ejectionActions

theorem ejection_law_single :
    ejectionSteps.map (becomesEjected firstKey) = [true, false, false, false] ∧
      EjectionLaw 1 1000000 firstKey ejectionSteps := by
  refine ⟨by decide +kernel, ?_⟩
  refine ejection_law ejectingUpstream 0 rfl (trace_isRun _ _ ejectionActions) ?_
    (List.mem_cons_self)
  intro step member
  have every : ∀ action ∈ ejectionActions, action.keepsEndpoints = true := by
    simp [ejectionActions, ClusterAction.keepsEndpoints, ClusterCall.keepsEndpoints]
  exact every step.label (label_of_mem_trace member)

def ejectingPair : Upstream :=
  { ejectingUpstream with
    endpoints :=
      [{ address := firstAddress, weight := .constant 3 },
        { address := secondAddress, weight := .constant 3 }] }

def failureActions : List ClusterAction :=
  [ .call (.at 10) (.recordOutcome firstAddress .failure),
    .call (.at 20) (.recordOutcome firstAddress .failure),
    .call (.at 2000000) (.recordOutcome secondAddress .failure),
    .call (.at 2000010) (.recordOutcome firstAddress .failure),
    .call (.at 2000020) (.selectEndpoint 0) ]

def failureSteps : List ClusterStep :=
  trace ClusterSystem.step (ClusterSystem.new ejectingPair 0) failureActions

/-- The second failure completes a run of one and ejects nothing. The selection behind the
first deadline does not bring the endpoint back. -/
theorem ejected_once_while_recorded :
    (failureSteps[1]?.map fun step =>
        (step.label.reports .failure firstKey, failuresSince firstKey (failureSteps.take 1) + 1,
          becomesEjected firstKey step, deadline firstKey step.after)) =
      some (true, 1, false, some 1000010) ∧
    failureSteps.map (becomesEjected firstKey) = [true, false, false, true, false] ∧
    failureSteps.map (fun step => deadline firstKey step.after) =
      [some 1000010, some 1000010, none, some 3000010, some 3000010] ∧
    (failureSteps[4]?.map fun step => step.after.cluster.state.endpoints) = some [] := by
  decide +kernel

end Pavis.Upstream
