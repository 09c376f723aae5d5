/-
Runs of the driver loop.

`Driver.Shape` lists the configurations the loop goes through. Each holds one
piece of work and no more: an event to tick, the effects of one tick, a fetch
or a timer.
-/

import Pavis.Agent.AnsweredRuns
import Pavis.Agent.Driver

namespace Pavis.Agent

open ByteText LabelledRun

def InFlight (tasks : List FetchTask) (handle : Nat) : Prop :=
  ∃ task, tasks[handle]? = some task ∧ task.status = .running

def OnlyInFlight (tasks : List FetchTask) (handle : Nat) : Prop :=
  ∀ other, InFlight tasks other → other = handle

def Quiet (tasks : List FetchTask) : Prop := ∀ handle, ¬InFlight tasks handle

variable {tasks : List FetchTask} {handle : Nat} {now : Instant} {event : Event}

theorem Quiet.only (quiet : Quiet tasks) (handle : Nat) : OnlyInFlight tasks handle :=
  fun other running => absurd running (quiet other)

private theorem quiet_nil : Quiet [] := by
  intro handle running
  obtain ⟨task, found, _⟩ := running
  simp at found

theorem Quiet.spawned (quiet : Quiet tasks) (task : FetchTask) :
    OnlyInFlight (tasks ++ [task]) tasks.length := by
  intro other runs
  obtain ⟨started, found, running⟩ := runs
  by_cases earlier : other < tasks.length
  · rw [List.getElem?_append_left earlier] at found
    exact absurd ⟨started, found, running⟩ (quiet other)
  · obtain ⟨bound, _⟩ := List.getElem?_eq_some_iff.mp found
    rw [List.length_append, List.length_singleton] at bound
    omega

theorem InFlight.of_modify {other : Nat} {change : TaskStatus → TaskStatus}
    (startsNothing : ∀ status, change status = .running → status = .running)
    (running : InFlight (tasks.modify handle (FetchTask.withStatus change)) other) :
    InFlight tasks other := by
  obtain ⟨task, found, isRunning⟩ := running
  rw [List.getElem?_modify] at found
  obtain ⟨original, foundOriginal, changed⟩ := Option.map_eq_some_iff.mp found
  refine ⟨original, foundOriginal, ?_⟩
  split at changed
  · rw [← changed] at isRunning
    exact startsNothing original.status isRunning
  · rw [changed]
    exact isRunning

theorem taskResult_startsNothing (result : Option (Response × Instant)) (status : TaskStatus)
    (running : taskResult result status = .running) : status = .running := by
  cases status with
  | running => rfl
  | _ => cases running

theorem abort_startsNothing (status : TaskStatus) (running : status.abort = .running) :
    status = .running := by
  cases status with
  | running => rfl
  | _ => cases running

theorem quiet_of_joined (only : OnlyInFlight tasks handle)
    (joined : (tasks[handle]?).bind (fun task => task.status.joined now) = some event) :
    Quiet tasks := by
  intro other running
  have same := only other running
  subst same
  obtain ⟨task, found, isRunning⟩ := running
  rw [found] at joined
  simp only [Option.bind_some, isRunning, TaskStatus.joined] at joined
  cases joined

/-- The effects of a tick that are still to be performed in `state`. -/
inductive Due : State → List Effect → Prop where
  | fetch (effect : Effect) (isFetch : effect.isFetch = true) : Due .fetching [effect]
  | discard (path : Text) (effect : Effect) (isFetch : effect.isFetch = true) :
      Due .fetching [.discardTemp path, effect]
  | verify (data : VerifyingData) :
      Due (.verifying data) [.verify data.etag data.version data.size data.bytes]
  | apply (update : VerifiedUpdate) : Due (.applying update) [.apply update]
  | timer (duration : Duration) : Due .backoffSleeping [.scheduleTimer duration]

theorem Due.ne_nil {state : State} {effects : List Effect} (due : Due state effects) :
    effects ≠ [] := by
  cases due <;> simp

variable {fsm : Fsm}

theorem Transition.due {draw : Nat} {result : Fsm × List Effect}
    (transition : Transition draw fsm event result) (handled : fsm.state.handles event = true)
    (notShutdown : event ≠ .shutdown) : Due result.1.state result.2 := by
  cases transition with
  | started | resynced => exact .fetch _ rfl
  | resumed | skipped | polledAgain | applied =>
    exact .fetch _ (Context.nextFetch_isFetch _ _)
  | duplicate => exact .discard _ _ (Context.nextFetch_isFetch _ _)
  | verifies ctx etag version size bytes => exact .verify ⟨etag, version, size, bytes⟩
  | applies data ctx update => exact .apply update
  | unavailable | verifyRejected | applyRejected => exact .timer _
  | halted => exact absurd rfl notShutdown
  | ignored _ _ unhandled =>
    rw [unhandled] at handled
    cases handled

/-- The event is one the state reacts to, and a result answers what it owes. -/
structure State.Expects (state : State) (event : Event) : Prop where
  handled : state.handles event = true
  notShutdown : event ≠ .shutdown
  answered : event.isResult = true → state.owed.any event.answers = true

private theorem expects_start (now : Instant) : State.idle.Expects (.start now) :=
  { handled := rfl
    notShutdown := by simp
    answered := fun isResult => nomatch isResult }

theorem expects_timerFired (now : Instant) : State.backoffSleeping.Expects (.timerFired now) :=
  { handled := rfl
    notShutdown := by simp
    answered := fun isResult => nomatch isResult }

theorem expects_joined {status : TaskStatus} (joined : status.joined now = some event) :
    State.fetching.Expects event := by
  cases status with
  | running => cases joined
  | _ =>
    cases joined
    exact ⟨rfl, by simp, fun isResult => nomatch isResult⟩

theorem expects_verifyResult (data : VerifyingData) (tmpPath : Option Text) (now : Instant) :
    (State.verifying data).Expects
      (verifyResult data.etag data.version data.size tmpPath now) := by
  cases tmpPath with
  | none | some =>
    refine ⟨rfl, by simp [verifyResult], fun _ => ?_⟩
    simp [verifyResult, State.owed, Event.answers]

private theorem expects_applyResult (update : VerifiedUpdate) (succeeded : Bool) (now : Instant) :
    (State.applying update).Expects (applyResult update succeeded now) := by
  cases succeeded with
  | false | true =>
    refine ⟨rfl, by simp [applyResult], fun _ => ?_⟩
    simp [applyResult, State.owed, Event.answers]

/-! ### The configurations of the loop -/

inductive Driver.Shape : Driver → Prop where
  | queued (fsm : Fsm) (event : Event) (tasks : List FetchTask)
      (expects : fsm.state.Expects event) (quiet : Quiet tasks) :
      Shape ⟨fsm, [event], none, none, tasks, .draining []⟩
  | emitted (fsm : Fsm) (effects : List Effect) (tasks : List FetchTask)
      (due : Due fsm.state effects) (quiet : Quiet tasks) :
      Shape ⟨fsm, [], none, none, tasks, .draining effects⟩
  | fetchSpawned (fsm : Fsm) (handle : Nat) (tasks : List FetchTask)
      (fetching : fsm.state = .fetching) (only : OnlyInFlight tasks handle) :
      Shape ⟨fsm, [], some handle, none, tasks, .draining []⟩
  | timerSet (fsm : Fsm) (duration : Duration) (tasks : List FetchTask)
      (sleeping : fsm.state = .backoffSleeping) (quiet : Quiet tasks) :
      Shape ⟨fsm, [], none, some duration, tasks, .draining []⟩
  | fetchUnpolled (fsm : Fsm) (handle : Nat) (tasks : List FetchTask)
      (fetching : fsm.state = .fetching) (only : OnlyInFlight tasks handle) :
      Shape ⟨fsm, [], some handle, none, tasks, .selecting .unpolled false⟩
  | fetchAwaited (fsm : Fsm) (handle : Nat) (tasks : List FetchTask)
      (fetching : fsm.state = .fetching) (only : OnlyInFlight tasks handle) :
      Shape ⟨fsm, [], none, none, tasks, .selecting (.awaiting handle) false⟩
  | timerAwaited (fsm : Fsm) (duration : Duration) (tasks : List FetchTask)
      (sleeping : fsm.state = .backoffSleeping) (quiet : Quiet tasks) :
      Shape ⟨fsm, [], none, some duration, tasks, .selecting .disabled true⟩
  | returned (fsm : Fsm) (handle : Nat) (tasks : List FetchTask)
      (stopped : fsm.state = .stopped) (only : OnlyInFlight tasks handle) :
      Shape ⟨fsm, [], none, none, tasks, .returned⟩

theorem Driver.shape_start (lkgEtag : Option Text) (now : Instant) : (start lkgEtag now).Shape :=
  .queued (Fsm.boot lkgEtag) (.start now) [] (expects_start now) quiet_nil

theorem OnlyInFlight.taskEnds {held : Nat} (only : OnlyInFlight tasks held) (handle : Nat)
    (result : Option (Response × Instant)) :
    OnlyInFlight (tasks.modify handle (FetchTask.withStatus (taskResult result))) held :=
  fun other running => only other (running.of_modify (taskResult_startsNothing result))

theorem Quiet.taskEnds (quiet : Quiet tasks) (handle : Nat) (result : Option (Response × Instant)) :
    Quiet (tasks.modify handle (FetchTask.withStatus (taskResult result))) :=
  fun other running => quiet other (running.of_modify (taskResult_startsNothing result))

variable {driver after : Driver} {output : Option Input}

theorem Driver.Shape.taskEnds (shape : driver.Shape) (handle : Nat)
    (result : Option (Response × Instant)) :
    ({ driver with
      tasks := driver.tasks.modify handle (FetchTask.withStatus (taskResult result)) } :
        Driver).Shape := by
  cases shape with
  | queued fsm event tasks expects quiet =>
    exact .queued fsm event _ expects (quiet.taskEnds handle result)
  | emitted fsm effects tasks due quiet =>
    exact .emitted fsm effects _ due (quiet.taskEnds handle result)
  | fetchSpawned fsm held tasks fetching only =>
    exact .fetchSpawned fsm held _ fetching (only.taskEnds handle result)
  | timerSet fsm duration tasks sleeping quiet =>
    exact .timerSet fsm duration _ sleeping (quiet.taskEnds handle result)
  | fetchUnpolled fsm held tasks fetching only =>
    exact .fetchUnpolled fsm held _ fetching (only.taskEnds handle result)
  | fetchAwaited fsm held tasks fetching only =>
    exact .fetchAwaited fsm held _ fetching (only.taskEnds handle result)
  | timerAwaited fsm duration tasks sleeping quiet =>
    exact .timerAwaited fsm duration _ sleeping (quiet.taskEnds handle result)
  | returned fsm held tasks stopped only =>
    exact .returned fsm held _ stopped (only.taskEnds handle result)

theorem Driver.Shape.ticked (expects : fsm.state.Expects event) (quiet : Quiet tasks) (draw : Nat) :
    Driver.Shape ⟨(fsm.tick draw event).1, [], none, none, tasks,
      .draining (fsm.tick draw event).2⟩ :=
  .emitted _ _ tasks
    ((fsm.tick_transition draw event).due expects.handled expects.notShutdown) quiet

theorem Driver.Shape.performed_fetch {effect : Effect} {performed : Driver}
    (fetching : fsm.state = .fetching) (quiet : Quiet tasks) (isFetch : effect.isFetch = true)
    {phase : Phase}
    (performs : (⟨fsm, [], none, none, tasks, phase⟩ : Driver).perform effect = some performed) :
    ({ performed with phase := .draining [] } : Driver).Shape := by
  cases effect with
  | fetchConditional | fetchUnconditional =>
    cases performs
    exact .fetchSpawned fsm _ _ fetching (quiet.spawned _)
  | _ => cases isFetch

theorem Driver.Shape.emitted_step {effects : List Effect} (due : Due fsm.state effects)
    (quiet : Quiet tasks) {action : Action}
    (ended : ∀ handle result, action = .taskEnds handle result → after.Shape)
    (accepted : Driver.step ⟨fsm, [], none, none, tasks, .draining effects⟩ action =
      some (after, output)) : after.Shape := by
  obtain ⟨state, ctx⟩ := fsm
  cases due with
  | fetch effect isFetch =>
    cases action with
    | perform =>
      simp only [Driver.step, Option.map_eq_some_iff, Prod.mk.injEq] at accepted
      obtain ⟨performed, performs, rfl, rfl⟩ := accepted
      exact performed_fetch rfl quiet isFetch performs
    | verifyUpdate =>
      cases effect with
      | verify => cases isFetch
      | _ => cases accepted
    | applyUpdate =>
      cases effect with
      | apply => cases isFetch
      | _ => cases accepted
    | _ => first | exact ended _ _ rfl | cases accepted
  | discard path effect isFetch =>
    cases action with
    | perform =>
      cases accepted
      exact .emitted _ _ tasks (.fetch effect isFetch) quiet
    | _ => first | exact ended _ _ rfl | cases accepted
  | verify data =>
    cases action with
    | verifyUpdate tmpPath now =>
      cases accepted
      exact .queued _ _ tasks (expects_verifyResult data tmpPath now) quiet
    | _ => first | exact ended _ _ rfl | cases accepted
  | apply update =>
    cases action with
    | applyUpdate succeeded now =>
      cases accepted
      exact .queued _ _ tasks (expects_applyResult update succeeded now) quiet
    | _ => first | exact ended _ _ rfl | cases accepted
  | timer duration =>
    cases action with
    | perform =>
      cases accepted
      exact .timerSet _ duration tasks rfl quiet
    | _ => first | exact ended _ _ rfl | cases accepted

theorem Driver.Shape.polled (fetching : fsm.state = .fetching) (only : OnlyInFlight tasks handle)
    (now : Instant) :
    ((⟨fsm, [], some handle, none, tasks, .selecting .unpolled false⟩ : Driver).pollFetch
      false now).Shape := by
  unfold Driver.pollFetch
  cases joined : (tasks[handle]?).bind (fun task => task.status.joined now) with
  | none =>
    simp only [joined]
    exact .fetchAwaited fsm handle tasks fetching only
  | some event =>
    simp only [joined]
    obtain ⟨task, _, joins⟩ := Option.bind_eq_some_iff.mp joined
    exact .queued fsm event tasks (fetching ▸ expects_joined joins) (quiet_of_joined only joined)

theorem Fsm.shutdown_stopped (fsm : Fsm) : (fsm.tick 0 .shutdown).1.state = .stopped := by
  obtain ⟨state, ctx⟩ := fsm
  cases state <;> rfl

theorem Driver.Shape.step {action : Action} (shape : driver.Shape)
    (accepted : driver.step action = some (after, output)) : after.Shape := by
  have ended : ∀ handle result, action = .taskEnds handle result → after.Shape := by
    rintro handle result rfl
    cases accepted
    exact shape.taskEnds handle result
  cases shape with
  | queued fsm event tasks expects quiet =>
    cases action with
    | tick draw =>
      cases accepted
      exact .ticked expects quiet draw
    | _ => first | exact ended _ _ rfl | cases accepted
  | emitted fsm effects tasks due quiet => exact .emitted_step due quiet ended accepted
  | fetchSpawned fsm handle tasks fetching only =>
    cases action with
    | enterSelect =>
      cases accepted
      exact .fetchUnpolled fsm handle tasks fetching only
    | _ => first | exact ended _ _ rfl | cases accepted
  | timerSet fsm duration tasks sleeping quiet =>
    cases action with
    | enterSelect =>
      cases accepted
      exact .timerAwaited fsm duration tasks sleeping quiet
    | _ => first | exact ended _ _ rfl | cases accepted
  | fetchUnpolled fsm handle tasks fetching only =>
    cases action with
    | pollFetch now =>
      cases accepted
      exact .polled fetching only now
    | shutdownChanged =>
      cases accepted
      exact .returned _ handle _ fsm.shutdown_stopped
        (fun other running => only other (running.of_modify abort_startsNothing))
    | _ => first | exact ended _ _ rfl | cases accepted
  | fetchAwaited fsm handle tasks fetching only =>
    cases action with
    | pollFetch =>
      simp only [Driver.step, Option.map_eq_some_iff, Prod.mk.injEq] at accepted
      obtain ⟨event, joined, rfl, rfl⟩ := accepted
      obtain ⟨task, _, joins⟩ := Option.bind_eq_some_iff.mp joined
      exact .queued fsm event tasks (fetching ▸ expects_joined joins)
        (quiet_of_joined only joined)
    | shutdownChanged =>
      cases accepted
      exact .returned _ handle tasks fsm.shutdown_stopped only
    | _ => first | exact ended _ _ rfl | cases accepted
  | timerAwaited fsm duration tasks sleeping quiet =>
    cases action with
    | timerElapsed now =>
      cases accepted
      exact .queued fsm (.timerFired now) tasks (sleeping ▸ expects_timerFired now) quiet
    | shutdownChanged =>
      cases accepted
      exact .returned _ 0 tasks fsm.shutdown_stopped (quiet.only 0)
    | _ => first | exact ended _ _ rfl | cases accepted
  | returned fsm handle =>
    cases action <;> first | exact ended _ _ rfl | cases accepted

theorem Driver.shape_of_visits {lkgEtag : Option Text}
    {steps : List (Step Driver Action (Option Input))}
    (isRun : IsRun step (start lkgEtag now) steps)
    (visits : Visits (start lkgEtag now) steps driver) : driver.Shape :=
  isRun.invariant_visited Shape (shape_start lkgEtag now)
    (fun _ accepted shape => shape.step accepted) visits

/-- The handle of the pending fetch, in `pending_fetch` or taken by the select. -/
def Driver.heldFetch (driver : Driver) : Option Nat :=
  match driver.phase with
  | .selecting (.awaiting handle) _ => some handle
  | _ => driver.pendingFetch

def Driver.Quiescent (driver : Driver) : Prop :=
  driver.phase = .draining [] ∧ driver.eventQueue = []

/-- The state machine waits for exactly the activity that is pending. -/
structure Driver.Agrees (driver : Driver) (fetch : Option Nat) : Prop where
  fetching : driver.fsm.state = .fetching ↔ fetch.isSome = true ∧ driver.pendingTimer = none
  sleeping : driver.fsm.state = .backoffSleeping ↔
    driver.pendingTimer.isSome = true ∧ fetch = none
  waiting : driver.fsm.state = .fetching ∨ driver.fsm.state = .backoffSleeping

theorem Driver.agrees_fetch {fetch : Option Nat} (stateAt : driver.fsm.state = .fetching)
    (pending : fetch.isSome = true) (noTimer : driver.pendingTimer = none) : driver.Agrees fetch :=
  { fetching := iff_of_true stateAt ⟨pending, noTimer⟩
    sleeping := iff_of_false (by simp [stateAt]) (by simp [noTimer])
    waiting := Or.inl stateAt }

theorem Driver.agrees_timer {fetch : Option Nat} (stateAt : driver.fsm.state = .backoffSleeping)
    (pending : driver.pendingTimer.isSome = true) (noFetch : fetch = none) : driver.Agrees fetch :=
  { fetching := iff_of_false (by simp [stateAt]) (by simp [noFetch])
    sleeping := iff_of_true stateAt ⟨pending, noFetch⟩
    waiting := Or.inr stateAt }

theorem Driver.Shape.quiescent (shape : driver.Shape) (quiescent : driver.Quiescent) :
    driver.Agrees driver.pendingFetch := by
  obtain ⟨phaseAt, queueAt⟩ := quiescent
  cases shape with
  | queued => cases queueAt
  | emitted fsm effects tasks due =>
    cases phaseAt
    exact absurd rfl due.ne_nil
  | fetchSpawned fsm handle tasks fetching => exact Driver.agrees_fetch fetching rfl rfl
  | timerSet fsm duration tasks sleeping => exact Driver.agrees_timer sleeping rfl rfl
  | _ => cases phaseAt

theorem Driver.Shape.selecting (shape : driver.Shape) {fetch : FetchBranch} {timer : Bool}
    (phaseAt : driver.phase = .selecting fetch timer) :
    driver.eventQueue = [] ∧ driver.Agrees driver.heldFetch ∧
      (fetch ≠ .disabled ∨ timer = true) := by
  cases shape with
  | fetchUnpolled fsm handle tasks fetching | fetchAwaited fsm handle tasks fetching =>
    cases phaseAt
    exact ⟨rfl, Driver.agrees_fetch fetching rfl rfl, Or.inl (by simp)⟩
  | timerAwaited fsm duration tasks sleeping =>
    cases phaseAt
    exact ⟨rfl, Driver.agrees_timer sleeping rfl rfl, Or.inr rfl⟩
  | _ => cases phaseAt

theorem Driver.Shape.only (shape : driver.Shape) : ∃ handle, OnlyInFlight driver.tasks handle := by
  cases shape with
  | queued _ _ _ _ quiet | emitted _ _ _ _ quiet | timerSet _ _ _ _ quiet
  | timerAwaited _ _ _ _ quiet => exact ⟨0, quiet.only 0⟩
  | fetchSpawned _ handle _ _ only | fetchUnpolled _ handle _ _ only
  | fetchAwaited _ handle _ _ only | returned _ handle _ _ only => exact ⟨handle, only⟩

theorem Driver.Shape.performing (shape : driver.Shape) {effect : Effect} {rest : List Effect}
    (phaseAt : driver.phase = .draining (effect :: rest)) :
    driver.pendingFetch = none ∧ driver.pendingTimer = none := by
  cases shape with
  | emitted => exact ⟨rfl, rfl⟩
  | _ => cases phaseAt

theorem single_activity (lkgEtag : Option Text) (now : Instant)
    (steps : List (Step Driver Action (Option Input)))
    (isRun : IsRun Driver.step (Driver.start lkgEtag now) steps) (driver : Driver)
    (visits : Visits (Driver.start lkgEtag now) steps driver) :
    (driver.Quiescent → driver.Agrees driver.pendingFetch) ∧
    (∀ fetch timer, driver.phase = .selecting fetch timer →
      driver.eventQueue = [] ∧ driver.Agrees driver.heldFetch ∧
        (fetch ≠ .disabled ∨ timer = true)) ∧
    (∀ first second, InFlight driver.tasks first → InFlight driver.tasks second →
      first = second) ∧
    (∀ effect rest, driver.phase = .draining (effect :: rest) → effect.isFetch = true →
      driver.pendingFetch = none) := by
  have shape := Driver.shape_of_visits isRun visits
  refine ⟨shape.quiescent, fun fetch timer => shape.selecting, ?_, ?_⟩
  · intro first second firstRuns secondRuns
    obtain ⟨handle, only⟩ := shape.only
    exact (only first firstRuns).trans (only second secondRuns).symm
  · intro effect rest phaseAt _
    exact (shape.performing phaseAt).1

def firstFetch : List Action := [.tick 0, .perform, .enterSelect]

theorem single_activity_firstFetch :
    ∃ driver, Visits (Driver.start none 0) (trace Driver.step (Driver.start none 0) firstFetch)
        driver ∧ driver.phase = .selecting .unpolled false ∧
      driver.eventQueue = [] ∧ driver.Agrees driver.heldFetch :=
  have visited : Visits (Driver.start none 0)
      (trace Driver.step (Driver.start none 0) firstFetch) _ :=
    Or.inr ⟨_, List.getElem_mem (n := 2) (by decide), rfl⟩
  have activity := single_activity none 0 _ (trace_isRun _ _ _) _ visited
  ⟨_, visited, rfl, (activity.2.1 _ _ rfl).1, (activity.2.1 _ _ rfl).2.1⟩

def Driver.FetchUnpolled (driver : Driver) : Prop :=
  ∃ timer, driver.phase = .selecting .unpolled timer

def Aborted (tasks : List FetchTask) (handle : Nat) : Prop :=
  ∃ task, tasks[handle]? = some task ∧ task.status = .aborted

theorem InFlight.not_aborted (running : InFlight tasks handle) : ¬Aborted tasks handle := by
  intro isAborted
  obtain ⟨task, found, aborted⟩ := isAborted
  obtain ⟨other, foundOther, isRunning⟩ := running
  rw [found] at foundOther
  cases foundOther
  rw [aborted] at isRunning
  cases isRunning

theorem InFlight.aborted (running : InFlight tasks handle) :
    Aborted (tasks.modify handle (FetchTask.withStatus TaskStatus.abort)) handle := by
  obtain ⟨task, found, isRunning⟩ := running
  refine ⟨task.withStatus TaskStatus.abort, ?_, ?_⟩
  · rw [List.getElem?_modify_eq, found]
    rfl
  · simp [FetchTask.withStatus, isRunning, TaskStatus.abort]

theorem Driver.Shape.shutdown_aborts_iff (shape : driver.Shape) {fetch : FetchBranch} {timer : Bool}
    (phaseAt : driver.phase = .selecting fetch timer) (running : InFlight driver.tasks handle) :
    Aborted driver.shutdown.tasks handle ↔ driver.FetchUnpolled := by
  cases shape with
  | fetchUnpolled fsm held tasks fetching only =>
    have same := only handle running
    subst same
    exact iff_of_true running.aborted ⟨false, rfl⟩
  | fetchAwaited =>
    apply iff_of_false running.not_aborted
    intro isAborted
    obtain ⟨_, impossible⟩ := isAborted
    cases impossible
  | timerAwaited fsm duration tasks sleeping quiet => exact absurd running (quiet handle)
  | _ => cases phaseAt

theorem Driver.selecting_of_shutdown
    (accepted : driver.step .shutdownChanged = some (after, output)) :
    ∃ fetch timer, driver.phase = .selecting fetch timer := by
  cases phaseAt : driver.phase with
  | selecting fetch timer => exact ⟨fetch, timer, rfl⟩
  | draining | returned => simp [step, phaseAt] at accepted

theorem Driver.shutdown_of_accepted
    (accepted : driver.step .shutdownChanged = some (after, output)) : after = driver.shutdown := by
  obtain ⟨fetch, timer, phaseAt⟩ := selecting_of_shutdown accepted
  simp only [step, phaseAt, Option.some.injEq, Prod.mk.injEq] at accepted
  exact accepted.1.symm

theorem shutdown_aborts_fetch_iff (lkgEtag : Option Text) (now : Instant)
    (steps : List (Step Driver Action (Option Input)))
    (isRun : IsRun Driver.step (Driver.start lkgEtag now) steps)
    (index : Nat) (step : Step Driver Action (Option Input)) (found : steps[index]? = some step)
    (shutdown : step.label = .shutdownChanged) :
    step.after.fsm.state = .stopped ∧ step.after.phase = .returned ∧
    ∀ handle, InFlight step.before.tasks handle →
      (Aborted step.after.tasks handle ↔ step.before.FetchUnpolled) := by
  have accepted := isRun.accepted_at found
  have shape := isRun.invariant_before Driver.Shape (Driver.shape_start lkgEtag now)
    (fun _ accepted shape => shape.step accepted) found
  obtain ⟨before, label, after, output⟩ := step
  change label = .shutdownChanged at shutdown
  subst shutdown
  obtain ⟨fetch, timer, phaseAt⟩ := Driver.selecting_of_shutdown accepted
  have shutdownAt : after = before.shutdown := Driver.shutdown_of_accepted accepted
  subst shutdownAt
  exact ⟨before.fsm.shutdown_stopped, rfl, fun handle => shape.shutdown_aborts_iff phaseAt⟩

def shutdownWhileAwaiting : List Action :=
  [.tick 0, .perform, .enterSelect, .pollFetch 1, .shutdownChanged]

theorem shutdown_leaves_fetch_running :
    ∃ step, (trace Driver.step (Driver.start none 0) shutdownWhileAwaiting)[4]? = some step ∧
      step.label = .shutdownChanged ∧ InFlight step.before.tasks 0 ∧
      step.after.phase = .returned ∧ InFlight step.after.tasks 0 ∧
      ¬Aborted step.after.tasks 0 :=
  have running : InFlight [⟨none, waitMs, .running⟩] 0 := ⟨_, rfl, rfl⟩
  ⟨_, rfl, rfl, running, rfl, running, running.not_aborted⟩

def shutdownBeforePoll : List Action := [.tick 0, .perform, .enterSelect, .shutdownChanged]

theorem shutdown_aborts_fetch_iff_beforePoll :
    ∃ step, (trace Driver.step (Driver.start none 0) shutdownBeforePoll)[3]? = some step ∧
      InFlight step.before.tasks 0 ∧
      (Aborted step.after.tasks 0 ↔ step.before.FetchUnpolled) ∧ Aborted step.after.tasks 0 :=
  have running : InFlight [⟨none, waitMs, .running⟩] 0 := ⟨_, rfl, rfl⟩
  ⟨_, rfl, running,
    (shutdown_aborts_fetch_iff none 0
      (trace Driver.step (Driver.start none 0) shutdownBeforePoll)
      (trace_isRun _ _ _) 3 _ rfl rfl).2.2 0 running, running.aborted⟩

end Pavis.Agent
