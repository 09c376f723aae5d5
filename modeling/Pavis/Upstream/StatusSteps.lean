/-
What one call does to the status of one endpoint.

Every call is one of four kinds to an endpoint: it counts a failure, ejects it,
clears the counter, or passes it by.
-/

import Pavis.Upstream.ClusterRuns

namespace Pavis.Upstream

open Config KeyedMap LabelledRun
open EndpointKey (fromAddr)

def HealthState.deadline (health : HealthState) (key : EndpointKey) : Option Instant :=
  (health.statuses.lookup key).bind EndpointStatus.ejectedUntil

def HealthState.published (noted : HealthState × Bool) (readings : Readings) : HealthState :=
  if noted.2 then (noted.1.clearExpiredEjections readings.second).1 else noted.1

theorem Cluster.settle_published (cluster : Cluster) (noted : HealthState × Bool)
    (readings : Readings) :
    (cluster.settle noted readings).1.health = HealthState.published noted readings ∧
      (cluster.settle noted readings).2 = noted.2 := by
  obtain ⟨health, refresh⟩ := noted
  cases refresh with
  | true | false => exact ⟨rfl, rfl⟩

theorem Cluster.perform_published (cluster : Cluster) (readings : Readings) (call : ClusterCall) :
    (cluster.perform readings call).cluster.health =
        HealthState.published (cluster.noted readings call) readings ∧
      (cluster.perform readings call).refreshed = (cluster.noted readings call).2 := by
  obtain ⟨counter, selected, same⟩ := cluster.perform_settles readings call
  rw [same]
  exact cluster.settle_published _ readings

abbrev ClusterStep := Step ClusterSystem ClusterAction (Option Endpoint)

def ClusterCall.reports (outcome : UpstreamOutcome) (key : EndpointKey) : ClusterCall → Bool
  | .recordOutcome endpoint reported =>
    decide (fromAddr endpoint = key ∧ reported = outcome)
  | .updateEndpoints _ | .setActiveHealth _ _ | .selectEndpoint _ => false

def ClusterCall.keepsEndpoints : ClusterCall → Bool
  | .updateEndpoints _ => false
  | .setActiveHealth _ _ | .recordOutcome _ _ | .selectEndpoint _ => true

def ClusterAction.reports (outcome : UpstreamOutcome) (key : EndpointKey) : ClusterAction → Bool
  | .pass _ => false
  | .call _ made => made.reports outcome key

def ClusterAction.keepsEndpoints : ClusterAction → Bool
  | .pass _ => true
  | .call _ made => made.keepsEndpoints

def ClusterAction.instant : ClusterAction → Instant
  | .pass now => now
  | .call readings _ => readings.first

def notedBy (system : ClusterSystem) : ClusterAction → HealthState
  | .pass _ => system.cluster.health
  | .call readings call => (system.cluster.noted readings call).1

def deadline (key : EndpointKey) (system : ClusterSystem) : Option Instant :=
  system.cluster.health.deadline key

/-- The endpoint becomes ejected: the call notes a deadline where there was none. -/
def becomesEjected (key : EndpointKey) (step : ClusterStep) : Bool :=
  deadline key step.before = none && ((notedBy step.before step.label).deadline key).isSome

namespace EndpointStatus

def bumped (status : EndpointStatus) : Nat := min (status.consecutiveErrors + 1) (2 ^ 32 - 1)

/-- Between the two an ejection was cleared, or nothing happened. -/
def Fades (now : Instant) (before after : EndpointStatus) : Prop :=
  (after.ejectedUntil = before.ejectedUntil ∧
      after.consecutiveErrors = before.consecutiveErrors) ∨
    (∃ deadline ≤ now, before.ejectedUntil = some deadline) ∧
      after.ejectedUntil = none ∧ after.consecutiveErrors = 0

theorem Fades.refl (now : Instant) (status : EndpointStatus) : Fades now status status :=
  .inl ⟨rfl, rfl⟩

variable {now : Instant} {before after : EndpointStatus}

theorem Fades.clearExpired {later : Instant} (ordered : now ≤ later) (status : EndpointStatus) :
    Fades later status (status.clearExpired now) := by
  obtain ⟨errors, ejected, active⟩ := status
  cases ejected with
  | none => exact .refl later _
  | some deadline =>
    by_cases due : deadline ≤ now
    · have cleared : (⟨errors, some deadline, active⟩ : EndpointStatus).clearExpired now =
          ⟨0, none, active⟩ := by
        simp [EndpointStatus.clearExpired, EndpointStatus.expired, due]
      rw [cleared]
      exact .inr ⟨⟨deadline, Nat.le_trans due ordered, rfl⟩, rfl, rfl⟩
    · have kept : (⟨errors, some deadline, active⟩ : EndpointStatus).clearExpired now =
          ⟨errors, some deadline, active⟩ := by
        simp [EndpointStatus.clearExpired, EndpointStatus.expired, due]
      rw [kept]
      exact .refl later _

theorem Fades.trans {first second third : EndpointStatus} (left : Fades now first second)
    (right : Fades now second third) : Fades now first third := by
  rcases left with ⟨sameDeadline, sameErrors⟩ | ⟨due, cleared, zero⟩
  · rw [Fades, sameDeadline, sameErrors] at right
    exact right
  · rcases right with ⟨sameDeadline, sameErrors⟩ | ⟨⟨deadline, _, recorded⟩, _⟩
    · exact .inr ⟨due, sameDeadline.trans cleared, sameErrors.trans zero⟩
    · rw [cleared] at recorded
      cases recorded

theorem Fades.lasts {ends : Instant} (fades : Fades now before after)
    (recorded : before.ejectedUntil = some ends) (ahead : now < ends) :
    after.ejectedUntil = some ends := by
  rcases fades with ⟨same, _⟩ | ⟨⟨due, reached, other⟩, _⟩
  · exact same.trans recorded
  · obtain rfl := Option.some.inj (recorded.symm.trans other)
    exact absurd ahead (Nat.not_lt_of_le reached)

theorem Fades.deadline (fades : Fades now before after) :
    after.ejectedUntil = before.ejectedUntil ∨ after.ejectedUntil = none := by
  rcases fades with ⟨same, _⟩ | ⟨_, gone, _⟩
  · exact .inl same
  · exact .inr gone

theorem Fades.zero (fades : Fades now before after) (zero : before.consecutiveErrors = 0) :
    after.consecutiveErrors = 0 := by
  rcases fades with ⟨_, same⟩ | ⟨_, _, cleared⟩
  · exact same.trans zero
  · exact cleared

end EndpointStatus

/-- What a call notes for an endpoint, and whether it is published. -/
inductive Notes (threshold ejectFor : Nat) (key : EndpointKey) (readings : Readings)
    (call : ClusterCall) (status : EndpointStatus) : EndpointStatus → Bool → Prop where
  | counts (fails : call.reports .failure key = true)
      (short : status.ejectedUntil = none → status.bumped < threshold) :
      Notes threshold ejectFor key readings call status
        { status with consecutiveErrors := status.bumped } false
  | ejects (fails : call.reports .failure key = true) (free : status.ejectedUntil = none)
      (reached : threshold ≤ status.bumped) :
      Notes threshold ejectFor key readings call status
        { status with
          consecutiveErrors := 0, ejectedUntil := some (readings.first + ejectFor) } true
  | succeeds (succeeds : call.reports .success key = true) (refresh : Bool) :
      Notes threshold ejectFor key readings call status
        { status with consecutiveErrors := 0 } refresh
  | marks (silent : ∀ outcome, call.reports outcome key = false) (active : ActiveHealth)
      (refresh : Bool) :
      Notes threshold ejectFor key readings call status
        { status with activeHealth := active } refresh
  | clears (silent : ∀ outcome, call.reports outcome key = false) (refresh : Bool) :
      Notes threshold ejectFor key readings call status
        (status.clearExpired readings.first) refresh

theorem ClusterCall.reports_self (endpoint : EndpointAddr) (outcome : UpstreamOutcome) :
    (recordOutcome endpoint outcome).reports outcome
      (fromAddr endpoint) = true := by
  simp [reports]

variable {key : EndpointKey}

theorem ClusterCall.reports_ne {endpoint : EndpointAddr}
    (other : key ≠ fromAddr endpoint) (reported outcome : UpstreamOutcome) :
    (recordOutcome endpoint reported).reports outcome key = false := by
  simp [reports, Ne.symm other]

section Noted

variable {health : HealthState} {key : EndpointKey} {status : EndpointStatus}
  {threshold ejectFor : Nat}

theorem Notes.of_other {readings : Readings} {call : ClusterCall}
    (silent : ∀ outcome, call.reports outcome key = false) (refresh : Bool) :
    Notes threshold ejectFor key readings call status status refresh :=
  .marks silent status.activeHealth refresh

section

variable (found : health.statuses.lookup key = some status)

include found

theorem HealthState.recordFailure_notes (endpoint : EndpointAddr) (readings : Readings) :
    ∃ noted, (health.recordFailure endpoint threshold ejectFor readings.first).1.statuses.lookup
        key = some noted ∧
      Notes threshold ejectFor key readings (.recordOutcome endpoint .failure) status noted
        (health.recordFailure endpoint threshold ejectFor readings.first).2 := by
  by_cases same : key = fromAddr endpoint
  · subst same
    simp only [recordFailure, found]
    split
    · rename_i reached
      exact ⟨_, AList.lookup_insert _, .ejects (ClusterCall.reports_self _ _) reached.2 reached.1⟩
    · rename_i short
      refine ⟨_, AList.lookup_insert _, .counts (ClusterCall.reports_self _ _) fun free => ?_⟩
      exact Nat.lt_of_not_le fun reached => short ⟨reached, free⟩
  · refine ⟨status, ?_, .of_other (ClusterCall.reports_ne same .failure) _⟩
    simp only [recordFailure]
    split
    · exact found
    · split <;> exact (AList.lookup_insert_ne same).trans found

theorem HealthState.recordSuccess_notes (endpoint : EndpointAddr) (readings : Readings) :
    ∃ noted, (health.recordSuccess endpoint).1.statuses.lookup key = some noted ∧
      Notes threshold ejectFor key readings (.recordOutcome endpoint .success) status noted
        (health.recordSuccess endpoint).2 := by
  by_cases same : key = fromAddr endpoint
  · subst same
    simp only [recordSuccess, found]
    split
    · rename_i zero
      have kept : status = { status with consecutiveErrors := 0 } := by rw [← zero]
      exact ⟨_, found.trans (congrArg some kept), .succeeds (ClusterCall.reports_self _ _) _⟩
    · exact ⟨_, AList.lookup_insert _, .succeeds (ClusterCall.reports_self _ _) _⟩
  · refine ⟨status, ?_, .of_other (ClusterCall.reports_ne same .success) _⟩
    simp only [recordSuccess]
    split
    · exact found
    · split
      · exact found
      · exact (AList.lookup_insert_ne same).trans found

theorem HealthState.markActiveHealth_notes (endpoint : EndpointAddr) (healthy : Bool)
    (readings : Readings) :
    ∃ noted, (health.markActiveHealth endpoint healthy).1.statuses.lookup key = some noted ∧
      Notes threshold ejectFor key readings (.setActiveHealth endpoint healthy) status noted
        (health.markActiveHealth endpoint healthy).2 := by
  have silent : ∀ outcome,
      (ClusterCall.setActiveHealth endpoint healthy).reports outcome key = false := fun _ => rfl
  unfold markActiveHealth
  cases other : health.statuses.lookup (fromAddr endpoint) with
  | none =>
    simp only [other]
    exact ⟨status, found, .of_other silent _⟩
  | some =>
    simp only [other]
    generalize (if healthy = true then ActiveHealth.healthy else ActiveHealth.unhealthy) = next
    split
    · exact ⟨status, found, .of_other silent _⟩
    · by_cases same : key = fromAddr endpoint
      · subst same
        obtain rfl := Option.some.inj (found.symm.trans other)
        exact ⟨_, AList.lookup_insert _, .marks silent _ _⟩
      · exact ⟨status, (AList.lookup_insert_ne same).trans found, .of_other silent _⟩

end

theorem Cluster.noted_notes {cluster : Cluster} {errors : NonZeroU32} {duration : Duration}
    (enabled : cluster.config.outlierDetection = .enabled errors duration)
    (found : cluster.health.statuses.lookup key = some status) (readings : Readings)
    {call : ClusterCall} (keeps : call.keepsEndpoints = true) :
    ∃ noted, (cluster.noted readings call).1.statuses.lookup key = some noted ∧
      Notes errors.value (duration.value * 1000000) key readings call status noted
        (cluster.noted readings call).2 := by
  unfold noted
  cases call with
  | updateEndpoints => cases keeps
  | setActiveHealth endpoint healthy =>
    cases cluster.config.healthCheck with
    | disabled => exact ⟨status, found, .of_other (fun _ => rfl) _⟩
    | enabled => exact HealthState.markActiveHealth_notes found endpoint healthy readings
  | recordOutcome endpoint outcome =>
    simp only [enabled]
    cases outcome with
    | success => exact HealthState.recordSuccess_notes found endpoint readings
    | failure => exact HealthState.recordFailure_notes found endpoint readings
  | selectEndpoint =>
    refine ⟨status.clearExpired readings.first, ?_, .clears (fun _ => rfl) _⟩
    simp only [HealthState.clearExpiredEjections, lookup_mapValues, found, Option.map_some]

end Noted

/-! ### One step of a run -/

inductive Turns (threshold ejectFor : Nat) (key : EndpointKey) (step : ClusterStep)
    (before after : EndpointStatus) : Prop where
  | counts (fails : step.label.reports .failure key = true) (kept : becomesEjected key step = false)
      (short : before.ejectedUntil = none → before.bumped < threshold)
      (recorded : after.ejectedUntil = before.ejectedUntil)
      (counted : after.consecutiveErrors = before.bumped)
  | ejects (fails : step.label.reports .failure key = true)
      (begins : becomesEjected key step = true)
      (free : before.ejectedUntil = none) (reached : threshold ≤ before.bumped)
      (fades : EndpointStatus.Fades step.after.clock
        { before with
          consecutiveErrors := 0, ejectedUntil := some (step.label.instant + ejectFor) } after)
  | succeeds (succeeds : step.label.reports .success key = true)
      (kept : becomesEjected key step = false)
      (fades : EndpointStatus.Fades step.after.clock { before with consecutiveErrors := 0 } after)
  | passes (silent : ∀ outcome, step.label.reports outcome key = false)
      (kept : becomesEjected key step = false)
      (fades : EndpointStatus.Fades step.after.clock before after)

variable {status : EndpointStatus} {step : ClusterStep}

theorem HealthState.published_fades {noted : HealthState × Bool}
    (found : noted.1.statuses.lookup key = some status) (readings : Readings) :
    ∃ after, (published noted readings).statuses.lookup key = some after ∧
      EndpointStatus.Fades (if noted.2 then readings.third else readings.first) status after ∧
      (noted.2 = false → after = status) := by
  obtain ⟨health, refresh⟩ := noted
  cases refresh with
  | false => exact ⟨status, found, .refl _ _, fun _ => rfl⟩
  | true =>
    refine ⟨status.clearExpired readings.second, ?_,
      .clearExpired readings.ordered.2 status, fun quiet => by cases quiet⟩
    change (mapValues (EndpointStatus.clearExpired readings.second) health.statuses).lookup key =
      _
    rw [lookup_mapValues, found, Option.map_some]

theorem ClusterSystem.clock_of_call {before after : ClusterSystem} {readings : Readings}
    {call : ClusterCall} {selected : Option Endpoint}
    (accepted : ClusterSystem.step before (.call readings call) = some (after, selected)) :
    after.clock =
      if (before.cluster.noted readings call).2 then readings.third else readings.first := by
  obtain ⟨_, rfl, _⟩ := call_of_accepted accepted
  unfold ClusterSystem.after
  rw [(before.cluster.perform_published readings call).2]
  split <;> rfl

theorem ClusterSystem.instant_of_accepted (accepted : step.Accepted ClusterSystem.step) :
    step.label.instant ≤ step.after.clock := by
  obtain ⟨before, action, after, selected⟩ := step
  change ClusterSystem.step before action = some (after, selected) at accepted
  cases action with
  | pass now =>
    obtain ⟨_, rfl⟩ := pass_of_accepted accepted
    exact Nat.le_refl now
  | call readings =>
    change readings.first ≤ after.clock
    rw [clock_of_call accepted]
    split
    · exact Nat.le_trans readings.ordered.1 readings.ordered.2
    · exact Nat.le_refl _

theorem HealthState.deadline_of_lookup {health : HealthState}
    (found : health.statuses.lookup key = some status) :
    health.deadline key = status.ejectedUntil := by
  unfold deadline
  rw [found]
  rfl

theorem becomesEjected_eq {noted : EndpointStatus}
    (found : step.before.cluster.health.statuses.lookup key = some status)
    (recorded : (notedBy step.before step.label).statuses.lookup key = some noted) :
    becomesEjected key step =
      (decide (status.ejectedUntil = none) && noted.ejectedUntil.isSome) := by
  unfold becomesEjected deadline
  rw [HealthState.deadline_of_lookup found, HealthState.deadline_of_lookup recorded]

private theorem becomesEjected_eq_false {noted : EndpointStatus}
    (found : step.before.cluster.health.statuses.lookup key = some status)
    (recorded : (notedBy step.before step.label).statuses.lookup key = some noted)
    (old : noted.ejectedUntil = status.ejectedUntil ∨ noted.ejectedUntil = none) :
    becomesEjected key step = false := by
  rw [becomesEjected_eq found recorded]
  rcases old with same | free
  · rw [same]
    cases status.ejectedUntil <;> rfl
  · rw [free, Option.isSome_none, Bool.and_false]

theorem ClusterSystem.turns (accepted : step.Accepted ClusterSystem.step)
    (keeps : step.label.keepsEndpoints = true) {errors : NonZeroU32} {duration : Duration}
    (enabled : step.before.cluster.config.outlierDetection = .enabled errors duration)
    (found : step.before.cluster.health.statuses.lookup key = some status) :
    ∃ after, step.after.cluster.health.statuses.lookup key = some after ∧
      Turns errors.value (duration.value * 1000000) key step status after := by
  have reading := instant_of_accepted accepted
  obtain ⟨before, action, after, selected⟩ := step
  change ClusterSystem.step before action = some (after, selected) at accepted
  cases action with
  | pass =>
    obtain ⟨_, rfl⟩ := pass_of_accepted accepted
    exact ⟨status, found, .passes (fun _ => rfl) (becomesEjected_eq_false found found (.inl rfl))
      (.refl _ _)⟩
  | call readings call =>
    have cluster := cluster_of_accepted accepted
    obtain ⟨noted, recorded, notes⟩ := Cluster.noted_notes enabled found readings keeps
    obtain ⟨later, settled, fades, quiet⟩ := HealthState.published_fades recorded readings
    rw [← (before.cluster.perform_published readings call).1, ← cluster] at settled
    rw [← clock_of_call accepted] at fades
    refine ⟨later, settled, ?_⟩
    generalize (before.cluster.noted readings call).2 = refresh at notes quiet
    cases notes with
    | counts fails short =>
      rw [quiet rfl]
      exact .counts fails (becomesEjected_eq_false found recorded (.inl rfl)) short rfl rfl
    | ejects fails free reached =>
      refine .ejects fails ?_ free reached fades
      rw [becomesEjected_eq found recorded, free]
      rfl
    | succeeds succeeds =>
      exact .succeeds succeeds (becomesEjected_eq_false found recorded (.inl rfl)) fades
    | marks silent =>
      exact .passes silent (becomesEjected_eq_false found recorded (.inl rfl)) fades
    | clears silent =>
      have cleared := EndpointStatus.Fades.clearExpired reading status
      exact .passes silent (becomesEjected_eq_false found recorded cleared.deadline)
        (cleared.trans fades)

end Pavis.Upstream
