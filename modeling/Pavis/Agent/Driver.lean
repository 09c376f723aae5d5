/-
The loop that drives the agent's state machine.

One step is the stretch of `run_loop` between two points at which something
else can run. The outcomes of fetches, verification and apply, the draws, the
clock readings and the order in which the select polls its branches are chosen
by the label.
-/

import Pavis.Agent.FsmRuns

namespace Pavis.Agent

open ByteText LabelledRun

/-- A task that panicked reports an error to whoever joins it. -/
inductive TaskStatus where
  | running
  | completed (response : Response) (now : Instant)
  | panicked
  | aborted
  deriving DecidableEq

structure FetchTask where
  etag : Option Text
  waitMs : Nat
  status : TaskStatus
  deriving DecidableEq

def TaskStatus.joined (now : Instant) : TaskStatus → Option Event
  | .running => none
  | .completed response finished => some (.response response finished)
  | .panicked => some (.response .transientUnavailable now)
  | .aborted => some (.response .transientUnavailable now)

def TaskStatus.abort : TaskStatus → TaskStatus
  | .running => .aborted
  | .completed response now => .completed response now
  | .panicked => .panicked
  | .aborted => .aborted

def FetchTask.withStatus (status : TaskStatus → TaskStatus) (task : FetchTask) : FetchTask :=
  { task with status := status task.status }

/-- The fetch branch of a select. Its first poll takes the handle out of
`pending_fetch` and keeps it inside the branch future. -/
inductive FetchBranch where
  | disabled
  | unpolled
  | awaiting (handle : Nat)
  deriving DecidableEq

/-- Where `run_loop` stands: performing the effects of a tick (none are left
when the next event is taken), inside the select, or returned. -/
inductive Phase where
  | draining (effects : List Effect)
  | selecting (fetch : FetchBranch) (timer : Bool)
  | returned
  deriving DecidableEq

/-- Join handles are positions in `tasks`. -/
structure Driver where
  fsm : Fsm
  eventQueue : List Event
  pendingFetch : Option Nat
  pendingTimer : Option Duration
  tasks : List FetchTask
  phase : Phase
  deriving DecidableEq

/-- The arguments of `run_loop` as `start_service` passes them. -/
def Driver.start (lkgEtag : Option Text) (now : Instant) : Driver :=
  { fsm := Fsm.boot lkgEtag
    eventQueue := [.start now]
    pendingFetch := none
    pendingTimer := none
    tasks := []
    phase := .draining [] }

inductive Action where
  | tick (draw : Nat)
  | perform
  | verifyUpdate (tmpPath : Option Text) (now : Instant)
  | applyUpdate (succeeded : Bool) (now : Instant)
  | enterSelect
  | pollFetch (now : Instant)
  | timerElapsed (now : Instant)
  | shutdownChanged
  | taskEnds (handle : Nat) (result : Option (Response × Instant))
  deriving DecidableEq

/-- A fetch is spawned only when no other is pending. -/
def Driver.spawnFetch (driver : Driver) (etag : Option Text) (waitMs : Nat) : Driver :=
  if driver.pendingFetch.isNone then
    { driver with
      pendingFetch := some driver.tasks.length
      tasks := driver.tasks ++ [{ etag := etag, waitMs := waitMs, status := .running }] }
  else driver

def Driver.pushBack (driver : Driver) (event : Event) : Driver :=
  { driver with eventQueue := driver.eventQueue ++ [event] }

def Driver.perform (driver : Driver) : Effect → Option Driver
  | .fetchConditional waitMs etag => some (driver.spawnFetch (some etag) waitMs)
  | .fetchUnconditional waitMs => some (driver.spawnFetch none waitMs)
  | .scheduleTimer duration => some { driver with pendingTimer := some duration }
  | .discardTemp _ => some driver
  | .verify _ _ _ _ => none
  | .apply _ => none

/-- The event pushed after `verify_update`, which returns the temporary path it
wrote or an error. -/
def verifyResult (etag : Text) (version : Option ConfigVersion) (size : Option Nat)
    (tmpPath : Option Text) (now : Instant) : Event :=
  match tmpPath with
  | some path => .verifyOk ⟨etag, version, size, path⟩ now
  | none => .verifyFail etag now

/-- The event pushed after `apply_update`, which returns the etag and version
of its argument or an error. -/
def applyResult (update : VerifiedUpdate) (succeeded : Bool) (now : Instant) : Event :=
  if succeeded then .applyOk update.etag update.version now else .applyFail update.etag now

def Driver.resume (driver : Driver) : Driver := { driver with phase := .draining [] }

def Driver.pollFetch (driver : Driver) (timer : Bool) (now : Instant) : Driver :=
  match driver.pendingFetch with
  | none => driver.resume
  | some handle =>
    let taken := { driver with pendingFetch := none }
    match (driver.tasks[handle]?).bind (fun task => task.status.joined now) with
    | some event => (taken.pushBack event).resume
    | none => { taken with phase := .selecting (.awaiting handle) timer }

def Driver.shutdown (driver : Driver) : Driver :=
  { driver with
    fsm := (driver.fsm.tick 0 .shutdown).1
    pendingFetch := none
    pendingTimer := none
    tasks :=
      match driver.pendingFetch with
      | some handle => driver.tasks.modify handle (FetchTask.withStatus TaskStatus.abort)
      | none => driver.tasks
    phase := .returned }

def taskResult (result : Option (Response × Instant)) : TaskStatus → TaskStatus
  | .running =>
    match result with
    | some (response, now) => .completed response now
    | none => .panicked
  | status => status

/-- The output is the tick made by the step, if it made one. -/
def Driver.step : Machine Driver Action (Option Input) := fun driver action =>
  match action, driver.phase with
  | .tick draw, .draining [] =>
    match driver.eventQueue with
    | [] => none
    | event :: rest =>
      let (fsm, effects) := driver.fsm.tick draw event
      some ({ driver with fsm := fsm, eventQueue := rest, phase := .draining effects },
        some ⟨event, draw⟩)
  | .perform, .draining (effect :: rest) =>
    (driver.perform effect).map fun performed =>
      ({ performed with phase := .draining rest }, none)
  | .verifyUpdate tmpPath now, .draining (.verify etag version size _ :: rest) =>
    some ({ driver.pushBack (verifyResult etag version size tmpPath now) with
      phase := .draining rest }, none)
  | .applyUpdate succeeded now, .draining (.apply update :: rest) =>
    some ({ driver.pushBack (applyResult update succeeded now) with
      phase := .draining rest }, none)
  | .enterSelect, .draining [] =>
    if driver.eventQueue = [] then
      some ({ driver with
        phase := .selecting (if driver.pendingFetch.isSome then .unpolled else .disabled)
          driver.pendingTimer.isSome }, none)
    else none
  | .pollFetch now, .selecting .unpolled timer => some (driver.pollFetch timer now, none)
  | .pollFetch now, .selecting (.awaiting handle) _ =>
    ((driver.tasks[handle]?).bind (fun task => task.status.joined now)).map fun event =>
      ((driver.pushBack event).resume, none)
  | .timerElapsed now, .selecting _ true =>
    some ((({ driver with pendingTimer := none } : Driver).pushBack (.timerFired now)).resume,
      none)
  | .shutdownChanged, .selecting _ _ => some (driver.shutdown, some ⟨.shutdown, 0⟩)
  | .taskEnds handle result, _ =>
    some ({ driver with
      tasks := driver.tasks.modify handle (FetchTask.withStatus (taskResult result)) }, none)
  | _, _ => none

end Pavis.Agent
