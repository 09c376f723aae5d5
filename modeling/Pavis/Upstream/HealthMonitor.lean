/-
The health monitor beside configuration swaps.

A tick loads the current state and compares its address with the one remembered
from an earlier tick. The monitor keeps only the number, so a state can be freed
and its address given to a state stored later.
-/

import Pavis.Library.LabelledRun
import Pavis.Upstream.HealthProbe
import Pavis.Upstream.Materialize

namespace Pavis.Upstream

open ByteText Config KeyedMap LabelledRun

/-- A state at its address, with whether the health client of a cluster builds. -/
structure StoredState where
  address : Nat
  placed : 0 < address
  upstreamManager : Manager
  clientBuilds : Text → Bool

/-- A shared cluster, which outlives its state while a plan or a job holds it. -/
structure ClusterRef where
  state : Nat
  name : Text
  deriving DecidableEq

structure PlanState where
  plan : HealthProbePlan
  cluster : ClusterRef
  nextDue : Instant
  deriving DecidableEq

structure ProbeJob where
  plan : HealthProbePlan
  cluster : ClusterRef
  deriving DecidableEq

structure Scheduler where
  plans : Map Text PlanState

def nanoseconds (milliseconds : Nat) : Nat := milliseconds * 1000000

def jitterDuration (base : Duration) (draw : Nat) : Nat :=
  let jitterMs := min (base.value / 10) 50
  if jitterMs = 0 then 0 else nanoseconds (draw % (jitterMs + 1))

def PlanState.isDue (state : PlanState) (now : Instant) : Bool := state.nextDue ≤ now

def StoredState.planOf (state : StoredState) (name : Text) (cluster : Cluster) :
    Option HealthProbePlan :=
  match HealthProbePlan.build (state.clientBuilds name) name cluster.config with
  | .ok plan => plan
  | .error _ => none

def Scheduler.fromManager (index : Nat) (state : StoredState) (now : Instant)
    (draws : Text → Nat) : Scheduler :=
  { plans := ofPairs (state.upstreamManager.clusters.entries.filterMap fun entry =>
      ((state.planOf entry.1 entry.2).map fun plan =>
        { plan := plan
          cluster := { state := index, name := entry.1 }
          nextDue := now + jitterDuration plan.interval (draws entry.1) : PlanState }).map
        fun planned => (entry.1, planned)) }

def markAllUnhealthy (readings : Nat → Readings) (cluster : Cluster) : Cluster :=
  cluster.currentEndpoints.zipIdx.foldl
    (fun cluster endpoint =>
      (cluster.setActiveHealth endpoint.1.address false (readings endpoint.2)).1)
    cluster

/-- The endpoints of a cluster whose client does not build are marked unhealthy. -/
def StoredState.markUnplanned (state : StoredState) (readings : Text → Nat → Readings) :
    StoredState :=
  { state with
    upstreamManager :=
      { clusters := mapEntries
          (fun name cluster =>
            match HealthProbePlan.build (state.clientBuilds name) name cluster.config with
            | .ok _ => cluster
            | .error _ => markAllUnhealthy (readings name) cluster)
          state.upstreamManager.clusters } }

def PlanState.reschedule (now : Instant) (draws : Text → Nat) (name : Text) (state : PlanState) :
    PlanState :=
  if state.isDue now then
    { state with
      nextDue := now + nanoseconds state.plan.interval.value +
        jitterDuration state.plan.interval (draws name) }
  else state

def Scheduler.nextJobs (scheduler : Scheduler) (now : Instant) (draws : Text → Nat) :
    Scheduler × List ProbeJob :=
  ({ plans := mapEntries (PlanState.reschedule now draws) scheduler.plans },
    scheduler.plans.entries.filterMap fun entry =>
      if entry.2.isDue now then some { plan := entry.2.plan, cluster := entry.2.cluster }
      else none)

/-- Every state that was ever stored, the last one current, and those that were
freed. The monitor holds the state of a tick until the tick is over. The field
`builtFrom` names the state the scheduler was built from, which the monitor does
not remember. -/
structure MonitorSystem where
  states : List StoredState
  freed : List Nat
  loaded : Option Nat
  lastStatePtr : Nat
  scheduler : Scheduler
  builtFrom : Option Nat

/-- What one tick reads: two instants, two draws for each plan and the instants of
the calls that mark endpoints unhealthy. -/
structure TickInputs where
  built : Instant
  now : Instant
  buildDraws : Text → Nat
  jobDraws : Text → Nat
  readings : Text → Nat → Readings

inductive MonitorAction where
  | store (state : StoredState)
  | free (index : Nat)
  | perform (index : Nat) (name : Text) (call : ClusterCall) (readings : Readings)
  | beginTick
  | finishTick (inputs : TickInputs)

def MonitorAction.isFinish : MonitorAction → Bool
  | .finishTick _ => true
  | _ => false

namespace MonitorSystem

def start (state : StoredState) : MonitorSystem :=
  { states := [state]
    freed := []
    loaded := none
    lastStatePtr := 0
    scheduler := { plans := ∅ }
    builtFrom := none }

def current (system : MonitorSystem) : Nat := system.states.length - 1

/-- No state that is alive has the address. -/
def isVacant (system : MonitorSystem) (address : Nat) : Bool :=
  system.states.zipIdx.all fun state =>
    state.1.address != address || system.freed.contains state.2

/-- The scheduler is built again when the loaded state has another address than
the remembered one. -/
def rebuild (system : MonitorSystem) (index : Nat) (state : StoredState) (inputs : TickInputs) :
    MonitorSystem :=
  if state.address = system.lastStatePtr then system
  else
    { system with
      states := system.states.set index (state.markUnplanned inputs.readings)
      scheduler := .fromManager index state inputs.built inputs.buildDraws
      lastStatePtr := state.address
      builtFrom := some index }

def step : Machine MonitorSystem MonitorAction (List ProbeJob) := fun system action =>
  match action with
  | .store state =>
    if system.isVacant state.address then
      some ({ system with states := system.states ++ [state] }, [])
    else none
  | .free index =>
    if index < system.current ∧ system.loaded ≠ some index ∧ index ∉ system.freed then
      some ({ system with freed := index :: system.freed }, [])
    else none
  | .perform index name call readings =>
    match system.states[index]? with
    | none => none
    | some state =>
      match state.upstreamManager.get name with
      | none => none
      | some cluster =>
        some
          ({ system with
              states := system.states.set index
                { state with
                  upstreamManager :=
                    { clusters := state.upstreamManager.clusters.insert name
                        (cluster.perform readings call).cluster } } }, [])
  | .beginTick =>
    match system.loaded with
    | some _ => none
    | none => some ({ system with loaded := some system.current }, [])
  | .finishTick inputs =>
    match system.loaded with
    | none => none
    | some index =>
      match system.states[index]? with
      | none => none
      | some state =>
        let rebuilt := system.rebuild index state inputs
        let jobs := rebuilt.scheduler.nextJobs inputs.now inputs.jobDraws
        some ({ rebuilt with scheduler := jobs.1, loaded := none }, jobs.2)

end MonitorSystem

/-! ### Plans of a state -/

def StoredState.plan? (state : StoredState) (name : Text) : Option HealthProbePlan :=
  (state.upstreamManager.get name).bind (state.planOf name)

/-- The plan and the cluster under a name are those of the state. -/
def Scheduler.Follows (scheduler : Scheduler) (index : Nat) (state : StoredState) : Prop :=
  ∀ name, (scheduler.plans.lookup name).map (fun planned => (planned.plan, planned.cluster)) =
    (state.plan? name).map fun plan => (plan, { state := index, name := name })

theorem Scheduler.fromManager_follows (index : Nat) (state : StoredState) (now : Instant)
    (draws : Text → Nat) : (fromManager index state now draws).Follows index state := by
  intro name
  have looked := lookup_ofPairs_filterMap
    (fun name cluster => (state.planOf name cluster).map fun plan =>
      ({ plan := plan
         cluster := { state := index, name := name }
         nextDue := now + jitterDuration plan.interval (draws name) } : PlanState))
    state.upstreamManager.clusters name
  unfold fromManager
  dsimp only
  rw [looked, StoredState.plan?, Manager.get]
  cases found : state.upstreamManager.clusters.lookup name with
  | none => rfl
  | some =>
    rw [Option.bind_some, Option.bind_some, Option.map_map]
    rfl

theorem Scheduler.nextJobs_follows (scheduler : Scheduler) (now : Instant) (draws : Text → Nat)
    (index : Nat) (state : StoredState) :
    (scheduler.nextJobs now draws).1.Follows index state ↔ scheduler.Follows index state := by
  have kept : ∀ name,
      ((scheduler.nextJobs now draws).1.plans.lookup name).map
          (fun planned => (planned.plan, planned.cluster)) =
        (scheduler.plans.lookup name).map fun planned => (planned.plan, planned.cluster) := by
    intro name
    unfold nextJobs
    rw [lookup_mapEntries, Option.map_map]
    congr 1
    funext planned
    change ((planned.reschedule now draws name).plan, (planned.reschedule now draws name).cluster) =
      (planned.plan, planned.cluster)
    unfold PlanState.reschedule
    split <;> rfl
  unfold Follows
  constructor
  · intro follows name
    rw [← kept, follows name]
  · intro follows name
    rw [kept, follows name]

/-- Two states with the same address whose clusters have the same configurations. -/
structure StoredState.SamePlans (left right : StoredState) : Prop where
  address : left.address = right.address
  plan? : ∀ name, left.plan? name = right.plan? name

theorem StoredState.SamePlans.of_configs {left right : StoredState}
    (address : left.address = right.address) (clients : left.clientBuilds = right.clientBuilds)
    (configs : ∀ name, (left.upstreamManager.get name).map Cluster.config =
      (right.upstreamManager.get name).map Cluster.config) : left.SamePlans right := by
  refine ⟨address, ?_⟩
  intro name
  have same := configs name
  unfold StoredState.plan?
  cases foundLeft : left.upstreamManager.get name with
  | none =>
    rw [foundLeft] at same
    rw [Option.map_eq_none_iff.mp same.symm]
    rfl
  | some =>
    rw [foundLeft] at same
    obtain ⟨other, foundRight, config⟩ := Option.map_eq_some_iff.mp same.symm
    rw [foundRight, Option.bind_some, Option.bind_some]
    unfold StoredState.planOf
    rw [clients, config]

private theorem markAllUnhealthy_config (readings : Nat → Readings) (cluster : Cluster) :
    (markAllUnhealthy readings cluster).config = cluster.config := by
  unfold markAllUnhealthy
  generalize cluster.currentEndpoints.zipIdx = endpoints
  induction endpoints generalizing cluster with
  | nil => rfl
  | cons endpoint rest ih =>
    rw [List.foldl_cons, ih]
    exact cluster.perform_config (readings endpoint.2) (.setActiveHealth endpoint.1.address false)

theorem StoredState.markUnplanned_samePlans (state : StoredState)
    (readings : Text → Nat → Readings) : (state.markUnplanned readings).SamePlans state := by
  refine SamePlans.of_configs (by rfl) (by rfl) ?_
  intro name
  unfold markUnplanned Manager.get
  dsimp only
  rw [lookup_mapEntries, Option.map_map]
  congr 1
  funext cluster
  change (match HealthProbePlan.build (state.clientBuilds name) name cluster.config with
    | .ok _ => cluster
    | .error _ => markAllUnhealthy (readings name) cluster).config = cluster.config
  split
  · rfl
  · exact markAllUnhealthy_config (readings name) cluster

theorem StoredState.perform_samePlans (state : StoredState) {name : Text} {cluster : Cluster}
    (found : state.upstreamManager.get name = some cluster) (readings : Readings)
    (call : ClusterCall) :
    SamePlans
      { state with
        upstreamManager :=
          { clusters := state.upstreamManager.clusters.insert name
              (cluster.perform readings call).cluster } } state := by
  refine SamePlans.of_configs (by rfl) (by rfl) ?_
  intro other
  by_cases same : other = name
  · subst same
    rw [found]
    unfold Manager.get
    dsimp only
    rw [AList.lookup_insert]
    exact congrArg some (cluster.perform_config readings call)
  · unfold Manager.get
    dsimp only
    rw [AList.lookup_insert_ne same]

theorem Scheduler.Follows.transfer {scheduler : Scheduler} {index : Nat}
    {state other : StoredState} (follows : scheduler.Follows index state)
    (same : other.SamePlans state) : scheduler.Follows index other := by
  intro name
  rw [follows name, same.plan? name]

theorem Scheduler.Follows.other_iff {scheduler : Scheduler} {built index : Nat}
    {source state : StoredState} (follows : scheduler.Follows built source)
    (different : built ≠ index) :
    scheduler.Follows index state ↔
      (∀ name, state.plan? name = none) ∧ ∀ name, scheduler.plans.lookup name = none := by
  constructor
  · intro both
    have none_of : ∀ name, state.plan? name = none ∧ scheduler.plans.lookup name = none := by
      intro name
      have here := both name
      have there := follows name
      cases looked : scheduler.plans.lookup name with
      | none =>
        rw [looked] at here
        exact ⟨Option.map_eq_none_iff.mp here.symm, rfl⟩
      | some =>
        rw [looked] at here there
        obtain ⟨_, _, own⟩ := Option.map_eq_some_iff.mp here.symm
        obtain ⟨_, _, earlier⟩ := Option.map_eq_some_iff.mp there.symm
        have same := congrArg (fun pair => pair.2.state) (own.trans earlier.symm)
        exact absurd same.symm different
    exact ⟨fun name => (none_of name).1, fun name => (none_of name).2⟩
  · rintro ⟨noPlan, noneScheduled⟩ name
    rw [noPlan name, noneScheduled name]
    rfl

/-! ### What the remembered address stands for -/

namespace MonitorSystem

/-- The remembered address is that of the state the scheduler was built from. -/
structure Remembers (system : MonitorSystem) : Prop where
  fresh : system.builtFrom = none → system.lastStatePtr = 0
  built : ∀ index, system.builtFrom = some index → ∃ state, system.states[index]? = some state ∧
    state.address = system.lastStatePtr ∧ system.scheduler.Follows index state

/-- Every state of the first system is still there, with the same plans. -/
def KeepsStates (before after : List StoredState) : Prop :=
  ∀ (index : Nat) (state : StoredState), before[index]? = some state →
    ∃ kept, after[index]? = some kept ∧ kept.SamePlans state

private theorem keepsStates_refl (states : List StoredState) : KeepsStates states states :=
  fun _ state found => ⟨state, found, rfl, fun _ => rfl⟩

theorem keepsStates_append (states : List StoredState) (state : StoredState) :
    KeepsStates states (states ++ [state]) := by
  intro index kept found
  obtain ⟨bound, _⟩ := List.getElem?_eq_some_iff.mp found
  exact ⟨kept, by rw [List.getElem?_append_left bound, found], rfl, fun _ => rfl⟩

private theorem keepsStates_set {states : List StoredState} {changed : Nat} {old new : StoredState}
    (present : states[changed]? = some old) (same : new.SamePlans old) :
    KeepsStates states (states.set changed new) := by
  intro index state found
  obtain ⟨bound, _⟩ := List.getElem?_eq_some_iff.mp found
  by_cases equal : changed = index
  · subst equal
    rw [found] at present
    cases present
    exact ⟨new, List.getElem?_set_self bound, same⟩
  · exact ⟨state, by rw [List.getElem?_set_ne equal, found], rfl, fun _ => rfl⟩

theorem Remembers.keeps {before after : MonitorSystem} (remembers : before.Remembers)
    (states : KeepsStates before.states after.states)
    (pointer : after.lastStatePtr = before.lastStatePtr)
    (scheduler : after.scheduler = before.scheduler)
    (origin : after.builtFrom = before.builtFrom) : after.Remembers := by
  constructor
  · rw [origin, pointer]
    exact remembers.fresh
  · intro index built
    rw [origin] at built
    obtain ⟨state, found, address, follows⟩ := remembers.built index built
    obtain ⟨kept, present, same⟩ := states index state found
    refine ⟨kept, present, ?_, ?_⟩
    · rw [same.address, pointer]
      exact address
    · rw [scheduler]
      exact follows.transfer same

variable {system : MonitorSystem}

theorem Remembers.rebuild (remembers : system.Remembers) {index : Nat} {state : StoredState}
    (found : system.states[index]? = some state) (inputs : TickInputs) :
    (system.rebuild index state inputs).Remembers := by
  unfold MonitorSystem.rebuild
  split
  · exact remembers
  · constructor
    · intro impossible
      cases impossible
    · intro built same
      cases same
      obtain ⟨bound, _⟩ := List.getElem?_eq_some_iff.mp found
      have kept := state.markUnplanned_samePlans inputs.readings
      exact ⟨_, List.getElem?_set_self bound, rfl,
        (Scheduler.fromManager_follows index state inputs.built inputs.buildDraws).transfer kept⟩

theorem Remembers.nextJobs (remembers : system.Remembers) (now : Instant) (draws : Text → Nat) :
    Remembers
      { system with scheduler := (system.scheduler.nextJobs now draws).1, loaded := none } := by
  constructor
  · exact remembers.fresh
  · intro index built
    obtain ⟨state, found, address, follows⟩ := remembers.built index built
    exact ⟨state, found, address,
      (system.scheduler.nextJobs_follows now draws index state).mpr follows⟩

theorem finishTick_accepted {before after : MonitorSystem} {inputs : TickInputs}
    {jobs : List ProbeJob} (accepted : step before (.finishTick inputs) = some (after, jobs)) :
    ∃ index state, before.loaded = some index ∧ before.states[index]? = some state ∧
      after =
        { before.rebuild index state inputs with
          scheduler :=
            ((before.rebuild index state inputs).scheduler.nextJobs inputs.now
              inputs.jobDraws).1
          loaded := none } := by
  dsimp only [step] at accepted
  split at accepted
  · cases accepted
  · rename_i index loaded
    split at accepted
    · cases accepted
    · rename_i state found
      cases accepted
      exact ⟨index, state, loaded, found, rfl⟩

theorem Remembers.step {step : Step MonitorSystem MonitorAction (List ProbeJob)}
    (accepted : step.Accepted MonitorSystem.step) (remembers : step.before.Remembers) :
    step.after.Remembers := by
  obtain ⟨before, action, after, jobs⟩ := step
  change MonitorSystem.step before action = some (after, jobs) at accepted
  change after.Remembers
  cases action with
  | store state =>
    dsimp only [MonitorSystem.step] at accepted
    split at accepted
    · cases accepted
      exact remembers.keeps (keepsStates_append before.states state) rfl rfl rfl
    · cases accepted
  | free =>
    dsimp only [MonitorSystem.step] at accepted
    split at accepted
    · cases accepted
      exact remembers.keeps (keepsStates_refl before.states) rfl rfl rfl
    · cases accepted
  | perform index name call readings =>
    dsimp only [MonitorSystem.step] at accepted
    split at accepted
    · cases accepted
    · rename_i state present
      split at accepted
      · cases accepted
      · rename_i cluster found
        cases accepted
        exact remembers.keeps
          (keepsStates_set present (state.perform_samePlans found readings call)) rfl rfl rfl
  | beginTick =>
    dsimp only [MonitorSystem.step] at accepted
    split at accepted
    · cases accepted
    · cases accepted
      exact remembers.keeps (keepsStates_refl before.states) rfl rfl rfl
  | finishTick inputs =>
    obtain ⟨index, state, _, found, rfl⟩ := finishTick_accepted accepted
    exact (remembers.rebuild found inputs).nextJobs inputs.now inputs.jobDraws

private theorem remembers_start (state : StoredState) : (start state).Remembers := by
  constructor
  · intro _
    rfl
  · intro index impossible
    cases impossible

/-- The loaded state has another address than the remembered one, or the scheduler
was built from it, or neither of them has a plan. -/
def Notices (system : MonitorSystem) (index : Nat) (state : StoredState) : Prop :=
  state.address ≠ system.lastStatePtr ∨ system.builtFrom = some index ∨
    (∀ name, state.plan? name = none) ∧ ∀ name, system.scheduler.plans.lookup name = none

theorem Remembers.follows_iff (remembers : system.Remembers) {index : Nat} {state : StoredState}
    (found : system.states[index]? = some state) (inputs : TickInputs) :
    (system.rebuild index state inputs).scheduler.Follows index state ↔
      system.Notices index state := by
  unfold MonitorSystem.rebuild Notices
  by_cases same : state.address = system.lastStatePtr
  · rw [if_pos same]
    cases origin : system.builtFrom with
    | none =>
      have unset := remembers.fresh origin
      have placed := state.placed
      omega
    | some built =>
      obtain ⟨source, present, _, follows⟩ := remembers.built built origin
      by_cases own : built = index
      · subst own
        rw [found] at present
        cases present
        exact ⟨fun _ => Or.inr (Or.inl rfl), fun _ => follows⟩
      · rw [follows.other_iff own]
        simp [same, own]
  · rw [if_neg same]
    exact ⟨fun _ => Or.inl same, fun _ => Scheduler.fromManager_follows _ _ _ _⟩

end MonitorSystem

/-- At the end of every tick of every run the plans are those of the state the tick
loaded, exactly when the tick could tell that state from the one it was built from. -/
theorem monitor_follows_reload_iff (initial : StoredState)
    {steps : List (Step MonitorSystem MonitorAction (List ProbeJob))}
    (isRun : IsRun MonitorSystem.step (.start initial) steps)
    {step : Step MonitorSystem MonitorAction (List ProbeJob)} (member : step ∈ steps)
    (finishes : step.label.isFinish = true) :
    ∃ index state, step.before.loaded = some index ∧ step.before.states[index]? = some state ∧
      (step.after.scheduler.Follows index state ↔ step.before.Notices index state) := by
  obtain ⟨position, found⟩ := List.getElem?_of_mem member
  have accepted := isRun.accepted_at found
  have remembers := isRun.invariant_before MonitorSystem.Remembers
    (MonitorSystem.remembers_start initial) (fun _ => MonitorSystem.Remembers.step) found
  obtain ⟨before, action, after, jobs⟩ := step
  change MonitorSystem.step before action = some (after, jobs) at accepted
  change before.Remembers at remembers
  cases action with
  | finishTick inputs =>
    obtain ⟨index, state, loaded, present, rfl⟩ := MonitorSystem.finishTick_accepted accepted
    refine ⟨index, state, loaded, present, ?_⟩
    rw [← remembers.follows_iff present inputs]
    exact Scheduler.nextJobs_follows _ inputs.now inputs.jobDraws index state
  | _ => cases finishes

def probedUpstream (name : Text) : Upstream :=
  { UpstreamBuilder.build (.constant 1) name
      [{ address := .ip (.v4 10 0 0 1) (.constant 80), weight := .constant 1 }] with
    healthCheck := .enabled (literal "/health") (.constant 1000) (.constant 100) }

def storedAfter (address : Nat) (name : Text) : StoredState :=
  { address := address + 1
    placed := Nat.succ_pos address
    upstreamManager :=
      { clusters := ofPairs [(name, Cluster.new (probedUpstream name) 0)] }
    clientBuilds := fun _ => true }

def quietTick : TickInputs :=
  { built := 0
    now := 0
    buildDraws := fun _ => 0
    jobDraws := fun _ => 0
    readings := fun _ _ => .at 0 }

def firstStored : StoredState := storedAfter 0 (literal "api")

def addressReused : List MonitorAction :=
  [ .beginTick, .finishTick quietTick, .store (storedAfter 1 (literal "api")), .free 0,
    .store (storedAfter 0 (literal "web")), .free 1, .beginTick, .finishTick quietTick ]

def afterReuse : MonitorSystem :=
  final (.start firstStored) (trace MonitorSystem.step (.start firstStored) addressReused)

/-- The running configuration probes another upstream than the scheduler. -/
theorem reused_address_hides_reload :
    (trace MonitorSystem.step (.start firstStored) addressReused).length = 8 ∧
      ((afterReuse.states[afterReuse.current]?).bind
        fun state => state.plan? (literal "web")).isSome = true ∧
      afterReuse.scheduler.plans.lookup (literal "web") = none ∧
      (afterReuse.scheduler.plans.lookup (literal "api")).map PlanState.cluster =
        some { state := 0, name := literal "api" } := by
  decide +kernel

def addressFresh : List MonitorAction :=
  [ .beginTick, .finishTick quietTick, .store (storedAfter 1 (literal "web")), .free 0,
    .beginTick, .finishTick quietTick ]

theorem monitor_follows_reload_iff_addressFresh :
    ∃ step ∈ trace MonitorSystem.step (.start firstStored) addressFresh,
      step.before.lastStatePtr = 1 ∧ ∃ index state, step.before.loaded = some index ∧
        step.before.states[index]? = some state ∧ state.address = 2 ∧
          step.after.scheduler.Follows index state := by
  have last : ((trace MonitorSystem.step (.start firstStored) addressFresh).getLast?.map
      fun step => (step.label.isFinish, step.before.lastStatePtr,
        (step.before.loaded.bind fun index => step.before.states[index]?).map
          StoredState.address)) = some (true, 1, some 2) := by
    decide +kernel
  obtain ⟨step, found, same⟩ := Option.map_eq_some_iff.mp last
  have member := List.mem_of_getLast? found
  have finishes : step.label.isFinish = true := congrArg Prod.fst same
  have remembered : step.before.lastStatePtr = 1 := congrArg (fun parts => parts.2.1) same
  have addressed := congrArg (fun parts => parts.2.2) same
  obtain ⟨index, state, loaded, present, follows⟩ := monitor_follows_reload_iff firstStored
    (trace_isRun MonitorSystem.step _ addressFresh) member finishes
  dsimp only at addressed
  rw [loaded, Option.bind_some, present] at addressed
  have address : state.address = 2 := Option.some.inj addressed
  refine ⟨step, member, remembered, index, state, loaded, present, address, follows.mpr ?_⟩
  left
  rw [address, remembered]
  decide

end Pavis.Upstream
