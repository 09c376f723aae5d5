/-
The entity tags the agent holds.

A tag is in the machine, in an event or an effect, or in a fetch task. A tick
and a step of the loop pass tags on and make none up: the only ones that come
from outside are those in the responses of fetches.
-/

import Pavis.Agent.DriverRuns

namespace Pavis.Agent

open ByteText LabelledRun

def Context.etags (ctx : Context) : List Text :=
  ctx.lastAppliedEtag.toList ++ ctx.lastRejectedEtag.toList

def State.etags : State → List Text
  | .verifying data => [data.etag]
  | .applying update => [update.etag]
  | .idle => []
  | .fetching => []
  | .backoffSleeping => []
  | .stopped => []

def Fsm.etags (fsm : Fsm) : List Text := fsm.state.etags ++ fsm.ctx.etags

def Response.etags : Response → List Text
  | .newArtifact etag _ _ _ => [etag]
  | .noUpdate => []
  | .needResync => []
  | .transientUnavailable => []

def Event.etags : Event → List Text
  | .response answer _ => answer.etags
  | .verifyOk update _ => [update.etag]
  | .verifyFail etag _ => [etag]
  | .applyOk etag _ _ => [etag]
  | .applyFail etag _ => [etag]
  | .start _ => []
  | .timerFired _ => []
  | .shutdown => []

def Effect.etags : Effect → List Text
  | .fetchConditional _ etag => [etag]
  | .verify etag _ _ _ => [etag]
  | .apply update => [update.etag]
  | .fetchUnconditional _ => []
  | .scheduleTimer _ => []
  | .discardTemp _ => []

def TaskStatus.etags : TaskStatus → List Text
  | .completed response _ => response.etags
  | .running => []
  | .panicked => []
  | .aborted => []

def FetchTask.etags (task : FetchTask) : List Text := task.etag.toList ++ task.status.etags

def Phase.etags : Phase → List Text
  | .draining effects => effects.flatMap Effect.etags
  | .selecting _ _ => []
  | .returned => []

/-- Every tag that the loop, its machine and its fetches hold. -/
def Driver.etags (driver : Driver) : List Text :=
  driver.fsm.etags ++ driver.eventQueue.flatMap Event.etags ++
    driver.tasks.flatMap FetchTask.etags ++ driver.phase.etags

def Action.etags : Action → List Text
  | .taskEnds _ (some (response, _)) => response.etags
  | _ => []

def mentioned (result : Fsm × List Effect) : List Text :=
  result.1.etags ++ result.2.flatMap Effect.etags

theorem Context.clearRejectedIfExpired_etags (ctx : Context) (now : Instant) :
    (ctx.clearRejectedIfExpired now).etags ⊆ ctx.etags := by
  unfold clearRejectedIfExpired
  split
  · split
    · exact List.append_subset.mpr ⟨List.subset_append_left _ _, List.nil_subset _⟩
    · exact List.Subset.refl _
  · exact List.Subset.refl _

theorem Context.conditionalEtag_etags (ctx : Context) (now : Instant) :
    (ctx.conditionalEtag now).1.etags ⊆ ctx.etags ∧
      (ctx.conditionalEtag now).2.toList ⊆ ctx.etags := by
  have cleared := ctx.clearRejectedIfExpired_etags now
  unfold conditionalEtag
  dsimp only
  split
  · exact ⟨cleared, List.nil_subset _⟩
  · split
    · rename_i etag rejected
      refine ⟨cleared, fun listed member => cleared ?_⟩
      rw [etags, rejected]
      exact List.mem_append_right _ member
    · exact ⟨cleared, fun listed member => cleared (List.mem_append_left _ member)⟩

theorem Context.resumeFetching_mentioned (ctx : Context) (now : Instant) :
    mentioned (ctx.resumeFetching now) ⊆ ctx.etags := by
  obtain ⟨kept, sent⟩ := ctx.conditionalEtag_etags now
  unfold resumeFetching nextFetch
  cases chosen : ctx.conditionalEtag now with
  | mk after etag =>
    rw [chosen] at kept sent
    cases etag with
    | none => exact List.append_subset.mpr ⟨kept, List.nil_subset _⟩
    | some => exact List.append_subset.mpr ⟨kept, sent⟩

theorem Context.resumed_mentioned (ctx : Context) (now : Instant) :
    mentioned ((ctx.clearRejectedIfExpired now).resetBackoff.resumeFetching now) ⊆ ctx.etags :=
  List.Subset.trans (resumeFetching_mentioned _ now) (ctx.clearRejectedIfExpired_etags now)

theorem Context.onReject_mentioned (ctx : Context) (draw : Nat) (etag : Text) (now : Instant) :
    mentioned (ctx.onReject draw etag now) ⊆ ctx.etags ++ [etag] := by
  have rejected : (ctx.setRejected etag now).etags ⊆ ctx.etags ++ [etag] :=
    List.append_subset.mpr ⟨fun listed member => List.mem_append_left _
      (List.mem_append_left _ member), List.subset_append_right _ _⟩
  exact List.append_subset.mpr ⟨rejected, List.nil_subset _⟩

theorem Context.onApplyOk_mentioned (ctx : Context) (etag : Text)
    (version : Option ConfigVersion) (now : Instant) :
    mentioned (ctx.onApplyOk etag version now) ⊆ ctx.etags ++ [etag] := by
  refine List.Subset.trans (resumeFetching_mentioned _ now) ?_
  refine List.append_subset.mpr ⟨?_, List.nil_subset _⟩
  dsimp only
  split
  · exact List.subset_append_right _ _
  · exact fun listed member => List.mem_append_left _ (List.mem_append_left _ member)

private theorem ctx_etags_kept (state : State) (ctx : Context) (event : Event) :
    ctx.etags ⊆ (Fsm.mk state ctx).etags ++ event.etags :=
  fun _ member => List.mem_append_left _ (List.mem_append_right _ member)

variable {event : Event} {effect : Effect} {handle : Nat} {driver : Driver}

private theorem event_etag_kept (state : State) (ctx : Context) {etag : Text}
    (carried : event.etags = [etag]) :
    ctx.etags ++ [etag] ⊆ (Fsm.mk state ctx).etags ++ event.etags :=
  List.append_subset.mpr ⟨ctx_etags_kept state ctx event,
    carried ▸ List.subset_append_right _ _⟩

private theorem handed_on {state : State} {ctx : Context} {etag : Text} {next : State}
    (carried : event.etags = [etag]) (inState : next.etags = [etag])
    (inEffect : effect.etags = [etag]) (now : Instant) :
    mentioned (⟨next, ctx.clearRejectedIfExpired now⟩, [effect]) ⊆
      (Fsm.mk state ctx).etags ++ event.etags := by
  have kept := event_etag_kept state ctx carried
  have cleared := ctx.clearRejectedIfExpired_etags now
  intro listed member
  apply kept
  simp only [mentioned, Fsm.etags, inState, List.flatMap_cons, List.flatMap_nil, inEffect,
    List.mem_append, List.append_nil] at member ⊢
  rcases member with (tag | kept) | tag
  · exact Or.inr tag
  · exact Or.inl (cleared kept)
  · exact Or.inr tag

theorem Transition.mentions {draw : Nat} {fsm : Fsm} {result : Fsm × List Effect}
    (transition : Transition draw fsm event result) :
    mentioned result ⊆ fsm.etags ++ event.etags := by
  cases transition with
  | started ctx now =>
    have cleared := List.Subset.trans (ctx.clearRejectedIfExpired_etags now)
      (ctx_etags_kept .idle ctx (.start now))
    exact List.append_subset.mpr ⟨cleared, List.nil_subset _⟩
  | resumed state ctx now =>
    exact List.Subset.trans (Context.resumeFetching_mentioned _ now)
      (List.Subset.trans (ctx.clearRejectedIfExpired_etags now) (ctx_etags_kept state ctx _))
  | skipped ctx _ _ _ _ now | polledAgain ctx now | duplicate _ ctx _ now =>
    exact List.Subset.trans (ctx.resumed_mentioned now) (ctx_etags_kept _ ctx _)
  | verifies _ _ _ _ _ now | applies _ _ _ now => exact handed_on rfl rfl rfl now
  | resynced => exact List.nil_subset _
  | unavailable ctx now =>
    have cleared := List.Subset.trans (ctx.clearRejectedIfExpired_etags now)
      (ctx_etags_kept .fetching ctx (.response .transientUnavailable now))
    exact List.append_subset.mpr ⟨cleared, List.nil_subset _⟩
  | verifyRejected data ctx etag now | applyRejected update ctx etag now =>
    exact List.Subset.trans (ctx.onReject_mentioned draw etag now) (event_etag_kept _ ctx rfl)
  | applied update ctx etag version now =>
    exact List.Subset.trans (ctx.onApplyOk_mentioned etag version now)
      (event_etag_kept _ ctx rfl)
  | halted state ctx =>
    exact List.append_subset.mpr ⟨ctx_etags_kept state ctx .shutdown, List.nil_subset _⟩
  | ignored =>
    exact List.append_subset.mpr ⟨List.subset_append_left _ _, List.nil_subset _⟩

/-! ### A step of the loop invents no tag -/

private theorem mem_modify {task : FetchTask} {tasks : List FetchTask}
    {change : FetchTask → FetchTask} (member : task ∈ tasks.modify handle change) :
    task ∈ tasks ∨ ∃ before ∈ tasks, task = change before := by
  obtain ⟨index, found⟩ := List.getElem?_of_mem member
  rw [List.getElem?_modify, Option.map_eq_map, Option.map_eq_some_iff] at found
  obtain ⟨before, at_index, same⟩ := found
  have listed := List.mem_of_getElem? at_index
  split at same
  · exact Or.inr ⟨before, listed, same.symm⟩
  · exact Or.inl (same ▸ listed)

private theorem withStatus_etags {tasks : List FetchTask} {change : TaskStatus → TaskStatus}
    {added : List Text} (changes : ∀ status, (change status).etags ⊆ status.etags ++ added) :
    (tasks.modify handle (FetchTask.withStatus change)).flatMap FetchTask.etags ⊆
      tasks.flatMap FetchTask.etags ++ added := by
  intro etag member
  obtain ⟨task, listed, mentions⟩ := List.mem_flatMap.mp member
  rcases mem_modify listed with kept | ⟨before, earlier, rfl⟩
  · exact List.mem_append_left _ (List.mem_flatMap.mpr ⟨task, kept, mentions⟩)
  · rcases List.mem_append.mp mentions with sent | answered
    · exact List.mem_append_left _
        (List.mem_flatMap.mpr ⟨before, earlier, List.mem_append_left _ sent⟩)
    · rcases List.mem_append.mp (changes before.status answered) with old | new
      · exact List.mem_append_left _
          (List.mem_flatMap.mpr ⟨before, earlier, List.mem_append_right _ old⟩)
      · exact List.mem_append_right _ new

theorem TaskStatus.abort_etags (status : TaskStatus) : status.abort.etags ⊆ status.etags := by
  cases status <;> exact List.Subset.refl _

theorem TaskStatus.joined_etags {status : TaskStatus} {now : Instant}
    (joined : status.joined now = some event) : event.etags ⊆ status.etags := by
  cases status <;> cases joined <;> exact List.Subset.refl _

private theorem taskResult_etags (handle : Nat) (result : Option (Response × Instant))
    (status : TaskStatus) :
    (taskResult result status).etags ⊆ status.etags ++ (Action.taskEnds handle result).etags := by
  cases status with
  | running =>
    cases result with
    | none => exact List.nil_subset _
    | some => exact List.Subset.refl _
  | _ => exact List.subset_append_left _ _

theorem Driver.joined_etags {now : Instant}
    (joined : (driver.tasks[handle]?).bind (fun task => task.status.joined now) = some event) :
    event.etags ⊆ driver.tasks.flatMap FetchTask.etags := by
  obtain ⟨task, found, joins⟩ := Option.bind_eq_some_iff.mp joined
  intro etag member
  exact List.mem_flatMap.mpr ⟨task, List.mem_of_getElem? found,
    List.mem_append_right _ (TaskStatus.joined_etags joins member)⟩

/-- The four places a tag can be in, against one list of tags. -/
structure Driver.Within (driver : Driver) (tags : List Text) : Prop where
  fsm : driver.fsm.etags ⊆ tags
  eventQueue : driver.eventQueue.flatMap Event.etags ⊆ tags
  tasks : driver.tasks.flatMap FetchTask.etags ⊆ tags
  phase : driver.phase.etags ⊆ tags

variable {tags : List Text}

theorem Driver.Within.subset (within : driver.Within tags) : driver.etags ⊆ tags :=
  List.append_subset.mpr ⟨List.append_subset.mpr ⟨List.append_subset.mpr
    ⟨within.fsm, within.eventQueue⟩, within.tasks⟩, within.phase⟩

theorem Driver.within_append (driver : Driver) (tags : List Text) :
    driver.Within (driver.etags ++ tags) := by
  constructor
  all_goals
    intro etag member
    simp only [etags, List.mem_append]
    simp only [member, true_or, or_true]

section

variable (within : driver.Within tags)

include within

theorem Driver.Within.pushBack (carried : event.etags ⊆ tags) :
    (driver.pushBack event).Within tags := by
  refine { within with eventQueue := ?_ }
  rw [Driver.pushBack, List.flatMap_append, List.flatMap_cons, List.flatMap_nil, List.append_nil]
  exact List.append_subset.mpr ⟨within.eventQueue, carried⟩

theorem Driver.Within.resume : driver.resume.Within tags :=
  { within with phase := List.nil_subset _ }

theorem Driver.Within.drain {effects : List Effect} (left : effects.flatMap Effect.etags ⊆ tags) :
    ({ driver with phase := .draining effects } : Driver).Within tags :=
  { within with phase := left }

theorem Driver.Within.pending {rest : List Effect}
    (phase : driver.phase = .draining (effect :: rest)) :
    effect.etags ⊆ tags ∧ rest.flatMap Effect.etags ⊆ tags := by
  have held := within.phase
  rw [phase, Phase.etags, List.flatMap_cons] at held
  exact List.append_subset.mp held

theorem Driver.Within.spawnFetch {etag : Option Text} (sent : etag.toList ⊆ tags) (waitMs : Nat) :
    (driver.spawnFetch etag waitMs).Within tags := by
  unfold Driver.spawnFetch
  split
  · refine { within with tasks := ?_ }
    rw [List.flatMap_append, List.flatMap_cons, List.flatMap_nil, List.append_nil]
    refine List.append_subset.mpr ⟨within.tasks, ?_⟩
    exact List.append_subset.mpr ⟨sent, List.nil_subset _⟩
  · exact within

theorem Driver.Within.perform {performed : Driver} (carried : effect.etags ⊆ tags)
    (accepted : driver.perform effect = some performed) : performed.Within tags := by
  cases effect with
  | fetchConditional waitMs etag =>
    cases accepted
    have sent : (some etag).toList ⊆ tags := carried
    exact within.spawnFetch sent waitMs
  | fetchUnconditional waitMs =>
    cases accepted
    exact within.spawnFetch (List.nil_subset _) waitMs
  | scheduleTimer =>
    cases accepted
    exact { within with }
  | discardTemp =>
    cases accepted
    exact within
  | verify | apply => cases accepted

theorem Driver.Within.pollFetch (timer : Bool) (now : Instant) :
    (driver.pollFetch timer now).Within tags := by
  unfold Driver.pollFetch
  split
  · exact within.resume
  · have taken : ({ driver with pendingFetch := none } : Driver).Within tags := { within with }
    dsimp only
    split
    · rename_i event joined
      exact (taken.pushBack (List.Subset.trans (Driver.joined_etags joined) within.tasks)).resume
    · exact { taken with phase := List.nil_subset _ }

theorem Driver.Within.shutdown : driver.shutdown.Within tags := by
  have stopped := (driver.fsm.tick_transition 0 .shutdown).mentions
  have kept : driver.shutdown.fsm.etags ⊆ tags := by
    intro etag member
    have earlier := stopped (List.mem_append_left _ member)
    rw [Event.etags, List.append_nil] at earlier
    exact within.fsm earlier
  refine ⟨kept, within.eventQueue, ?_, List.nil_subset _⟩
  unfold Driver.shutdown
  dsimp only
  split
  · rename_i handle _
    have aborted : (driver.tasks.modify handle (.withStatus .abort)).flatMap FetchTask.etags ⊆
        driver.tasks.flatMap FetchTask.etags ++ [] :=
      withStatus_etags fun status => (List.append_nil status.etags).symm ▸ status.abort_etags
    rw [List.append_nil] at aborted
    exact List.Subset.trans aborted within.tasks
  · exact within.tasks

theorem Driver.Within.tick {rest : List Event} (queued : driver.eventQueue = event :: rest)
    (draw : Nat) :
    ({ driver with
      fsm := (driver.fsm.tick draw event).1
      eventQueue := rest
      phase := .draining (driver.fsm.tick draw event).2 } : Driver).Within tags := by
  have events := within.eventQueue
  rw [queued, List.flatMap_cons] at events
  have ticked : mentioned (driver.fsm.tick draw event) ⊆ tags :=
    List.Subset.trans (driver.fsm.tick_transition draw event).mentions
      (List.append_subset.mpr ⟨within.fsm, (List.append_subset.mp events).1⟩)
  exact ⟨(List.append_subset.mp ticked).1, (List.append_subset.mp events).2, within.tasks,
    (List.append_subset.mp ticked).2⟩

end

theorem verifyResult_etags (etag : Text) (version : Option ConfigVersion) (size : Option Nat)
    (tmpPath : Option Text) (now : Instant) :
    (verifyResult etag version size tmpPath now).etags = [etag] := by
  cases tmpPath <;> rfl

private theorem applyResult_etags (update : VerifiedUpdate) (succeeded : Bool) (now : Instant) :
    (applyResult update succeeded now).etags = [update.etag] := by
  cases succeeded <;> rfl

theorem Driver.step_within {after : Driver} {action : Action} {output : Option Input}
    (accepted : driver.step action = some (after, output)) :
    after.Within (driver.etags ++ action.etags) := by
  have within := driver.within_append action.etags
  unfold step at accepted
  split at accepted
  · rename_i draw _
    split at accepted
    · cases accepted
    · rename_i event rest queued
      cases accepted
      exact within.tick queued draw
  · rename_i effect rest phase
    have both := within.pending phase
    obtain ⟨performed, performs, same⟩ := Option.map_eq_some_iff.mp accepted
    cases same
    exact (within.perform both.1 performs).drain both.2
  · rename_i tmpPath now etag version size bytes rest phase
    have both := within.pending phase
    cases accepted
    refine (within.pushBack ?_).drain both.2
    rw [verifyResult_etags]
    exact both.1
  · rename_i succeeded now update rest phase
    have both := within.pending phase
    cases accepted
    refine (within.pushBack ?_).drain both.2
    rw [applyResult_etags]
    exact both.1
  · split at accepted
    · cases accepted
      exact { within with phase := List.nil_subset _ }
    · cases accepted
  · rename_i now timer _
    cases accepted
    exact within.pollFetch timer now
  · obtain ⟨event, joined, same⟩ := Option.map_eq_some_iff.mp accepted
    cases same
    exact (within.pushBack (List.Subset.trans (joined_etags joined) within.tasks)).resume
  · cases accepted
    have cleared : ({ driver with pendingTimer := none } : Driver).Within _ := { within with }
    exact (cleared.pushBack (List.nil_subset _)).resume
  · cases accepted
    exact within.shutdown
  · rename_i handle result
    cases accepted
    have ended := List.append_subset.mpr
      ⟨within.tasks, List.subset_append_right driver.etags (Action.taskEnds handle result).etags⟩
    exact { within with
      tasks := List.Subset.trans (withStatus_etags (taskResult_etags handle result)) ended }
  · cases accepted

theorem etags_visited {start : Driver} {steps : List (Step Driver Action (Option Input))}
    (isRun : IsRun Driver.step start steps) (property : Text → Prop)
    (held : ∀ etag ∈ start.etags, property etag)
    (brought : ∀ step ∈ steps, ∀ etag ∈ step.label.etags, property etag)
    (visits : Visits start steps driver) : ∀ etag ∈ driver.etags, property etag := by
  refine isRun.guarded_visited (fun driver => ∀ etag ∈ driver.etags, property etag) held
    (fun step => ∀ etag ∈ step.label.etags, property etag) brought ?_ visits
  intro step accepted brings before etag member
  rcases List.mem_append.mp ((Driver.step_within accepted).subset member) with kept | new
  · exact before etag kept
  · exact brings etag new

end Pavis.Agent
