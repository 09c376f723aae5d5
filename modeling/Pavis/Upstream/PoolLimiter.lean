/-
The limiter of a connection pool.

Every atomic operation of an acquire call is a step of its own, so calls interleave
between any two of them. The semaphore is never closed, and metrics are left out. The
counters are numbers here, and `AtomicU32` in the source: `pool_counters_fit` says in
which runs no operation on them wraps.
-/

import Pavis.Config.Upstream
import Pavis.Library.Semaphore

namespace Pavis.Upstream

open Config CountingSemaphore LabelledRun

inductive PoolRejection where
  | queueFull
  | queueTimeout
  deriving DecidableEq

/-- Where a call is. From `holding` on it is the permit the call returned. -/
inductive PoolPhase where
  | entered
  | refused
  | overflowed
  | waiting
  | assigned
  | resumed
  | expired
  | permitted
  | counted
  | holding
  | dropping
  | released
  | rejected (reason : PoolRejection)
  | abandoned
  deriving DecidableEq

inductive PoolAction where
  | tryAcquire
  | joinQueue
  | leaveQueue
  | assign
  | poll
  | expire
  | cancel
  | finishQueueWait
  | startPoolUse
  | handOver
  | finishPoolUse
  | release
  deriving DecidableEq

structure PoolLimiter where
  permits : Semaphore
  queued : Nat
  activeConns : Nat
  calls : List PoolPhase
  deriving DecidableEq

inductive PoolLabel where
  | call
  | act (call : Nat) (action : PoolAction)
  deriving DecidableEq

namespace PoolLimiter

def new (pool : Pool) : PoolLimiter :=
  { permits := { permits := pool.max.value }, queued := 0, activeConns := 0, calls := [] }

/-- The shared counters after an operation of a call, and where the call is then.
A future that is dropped while it waits gives back a permit it was assigned, and
nothing else. -/
def advance (pool : Pool) (limiter : PoolLimiter) (phase : PoolPhase) :
    PoolAction → Option (PoolLimiter × PoolPhase)
  | .tryAcquire =>
    match phase with
    | .entered =>
      match limiter.permits.tryAcquire with
      | some permits => some ({ limiter with permits := permits }, .permitted)
      | none => some (limiter, .refused)
    | _ => none
  | .joinQueue =>
    match phase with
    | .refused =>
      if pool.queue.capacity = 0 then some (limiter, .rejected .queueFull)
      else if pool.queue.timeoutMs = 0 then some (limiter, .rejected .queueTimeout)
      else
        let queuedBefore := limiter.queued
        some ({ limiter with queued := limiter.queued + 1 },
          if queuedBefore ≥ pool.queue.capacity then .overflowed else .waiting)
    | _ => none
  | .leaveQueue =>
    match phase with
    | .overflowed =>
      some ({ limiter with queued := limiter.queued - 1 }, .rejected .queueFull)
    | _ => none
  | .assign =>
    match phase with
    | .waiting =>
      limiter.permits.tryAcquire.map fun permits =>
        ({ limiter with permits := permits }, .assigned)
    | _ => none
  | .poll =>
    match phase with
    | .assigned => some (limiter, .resumed)
    | _ => none
  | .expire =>
    match phase with
    | .waiting => some (limiter, .expired)
    | _ => none
  | .cancel =>
    match phase with
    | .waiting => some (limiter, .abandoned)
    | .assigned => some ({ limiter with permits := limiter.permits.release }, .abandoned)
    | _ => none
  | .finishQueueWait =>
    match phase with
    | .resumed => some ({ limiter with queued := limiter.queued - 1 }, .permitted)
    | .expired =>
      some ({ limiter with queued := limiter.queued - 1 }, .rejected .queueTimeout)
    | _ => none
  | .startPoolUse =>
    match phase with
    | .permitted => some ({ limiter with activeConns := limiter.activeConns + 1 }, .counted)
    | _ => none
  | .handOver =>
    match phase with
    | .counted => some (limiter, .holding)
    | _ => none
  | .finishPoolUse =>
    match phase with
    | .holding => some ({ limiter with activeConns := limiter.activeConns - 1 }, .dropping)
    | _ => none
  | .release =>
    match phase with
    | .dropping => some ({ limiter with permits := limiter.permits.release }, .released)
    | _ => none

def step (pool : Pool) : Machine PoolLimiter PoolLabel Unit := fun limiter label =>
  match label with
  | .call => some ({ limiter with calls := limiter.calls ++ [.entered] }, ())
  | .act call action =>
    match limiter.calls[call]? with
    | none => none
    | some phase =>
      (limiter.advance pool phase action).map fun moved =>
        ({ moved.1 with calls := limiter.calls.set call moved.2 }, ())

end PoolLimiter

inductive PoolMoved (pool : Pool) (limiter : PoolLimiter) :
    PoolPhase → PoolAction → PoolLimiter → PoolPhase → Prop where
  | permit (permits : Semaphore) (acquired : limiter.permits.tryAcquire = some permits) :
      PoolMoved pool limiter .entered .tryAcquire { limiter with permits := permits } .permitted
  | refuse : PoolMoved pool limiter .entered .tryAcquire limiter .refused
  | reject (reason : PoolRejection) :
      PoolMoved pool limiter .refused .joinQueue limiter (.rejected reason)
  | overflow :
      PoolMoved pool limiter .refused .joinQueue { limiter with queued := limiter.queued + 1 }
        .overflowed
  | queue (fits : limiter.queued < pool.queue.capacity) :
      PoolMoved pool limiter .refused .joinQueue { limiter with queued := limiter.queued + 1 }
        .waiting
  | leave :
      PoolMoved pool limiter .overflowed .leaveQueue { limiter with queued := limiter.queued - 1 }
        (.rejected .queueFull)
  | assign (permits : Semaphore) (acquired : limiter.permits.tryAcquire = some permits) :
      PoolMoved pool limiter .waiting .assign { limiter with permits := permits } .assigned
  | poll : PoolMoved pool limiter .assigned .poll limiter .resumed
  | expire : PoolMoved pool limiter .waiting .expire limiter .expired
  | cancelWaiting : PoolMoved pool limiter .waiting .cancel limiter .abandoned
  | cancelAssigned :
      PoolMoved pool limiter .assigned .cancel
        { limiter with permits := limiter.permits.release } .abandoned
  | resume :
      PoolMoved pool limiter .resumed .finishQueueWait { limiter with queued := limiter.queued - 1 }
        .permitted
  | timeOut :
      PoolMoved pool limiter .expired .finishQueueWait { limiter with queued := limiter.queued - 1 }
        (.rejected .queueTimeout)
  | count :
      PoolMoved pool limiter .permitted .startPoolUse
        { limiter with activeConns := limiter.activeConns + 1 } .counted
  | handOver : PoolMoved pool limiter .counted .handOver limiter .holding
  | uncount :
      PoolMoved pool limiter .holding .finishPoolUse
        { limiter with activeConns := limiter.activeConns - 1 } .dropping
  | release :
      PoolMoved pool limiter .dropping .release
        { limiter with permits := limiter.permits.release } .released

variable {pool : Pool} {limiter : PoolLimiter} {phase next : PoolPhase} {action : PoolAction}
  {step : Step PoolLimiter PoolLabel Unit}

theorem PoolLimiter.advance_moved {after : PoolLimiter}
    (advanced : limiter.advance pool phase action = some (after, next)) :
    PoolMoved pool limiter phase action after next := by
  cases action with
  | tryAcquire =>
    cases phase with
    | entered =>
      dsimp only [advance] at advanced
      cases acquired : limiter.permits.tryAcquire with
      | some permits =>
        rw [acquired] at advanced
        cases advanced
        exact .permit permits acquired
      | none =>
        rw [acquired] at advanced
        cases advanced
        exact .refuse
    | _ => cases advanced
  | joinQueue =>
    cases phase with
    | refused =>
      dsimp only [advance] at advanced
      split at advanced
      · cases advanced
        exact .reject _
      · split at advanced
        · cases advanced
          exact .reject _
        · split at advanced
          · cases advanced
            exact .overflow
          · cases advanced
            exact .queue (by omega)
    | _ => cases advanced
  | assign =>
    cases phase with
    | waiting =>
      obtain ⟨permits, acquired, same⟩ := Option.map_eq_some_iff.mp advanced
      cases same
      exact .assign permits acquired
    | _ => cases advanced
  | leaveQueue | poll | expire | cancel | finishQueueWait | startPoolUse | handOver
  | finishPoolUse | release => cases phase <;> cases advanced <;> constructor

theorem PoolLimiter.step_cases (accepted : step.Accepted (PoolLimiter.step pool)) :
    (step.label = .call ∧
      step.after = { step.before with calls := step.before.calls ++ [.entered] }) ∨
    ∃ call action phase next moved, step.label = .act call action ∧
      step.before.calls[call]? = some phase ∧
      PoolMoved pool step.before phase action moved next ∧
      step.after = { moved with calls := step.before.calls.set call next } := by
  obtain ⟨before, label, after, output⟩ := step
  change PoolLimiter.step pool before label = some (after, output) at accepted
  cases label with
  | call =>
    cases accepted
    exact Or.inl ⟨rfl, rfl⟩
  | act call action =>
    dsimp only [PoolLimiter.step] at accepted
    cases found : before.calls[call]? with
    | none =>
      rw [found] at accepted
      cases accepted
    | some phase =>
      rw [found] at accepted
      obtain ⟨⟨moved, next⟩, advanced, same⟩ := Option.map_eq_some_iff.mp accepted
      cases same
      exact Or.inr ⟨call, action, phase, next, moved, rfl, found,
        PoolLimiter.advance_moved advanced, rfl⟩

namespace PoolPhase

def hasPermit : PoolPhase → Bool
  | .assigned | .resumed | .permitted | .counted | .holding | .dropping => true
  | _ => false

def isActive : PoolPhase → Bool
  | .counted | .holding => true
  | _ => false

/-- The call has entered the queue, and nothing has taken it off the counter. -/
def isQueued : PoolPhase → Bool
  | .overflowed | .waiting | .assigned | .resumed | .expired | .abandoned => true
  | _ => false

def foundRoom : PoolPhase → Bool
  | .waiting | .assigned | .resumed | .expired | .abandoned => true
  | _ => false

/-- The call found the queue full, and it still has to take itself off the counter. -/
def isOverflowed : PoolPhase → Bool
  | .overflowed => true
  | _ => false

def isWaiting : PoolPhase → Bool
  | .waiting | .assigned => true
  | _ => false

def isHolding : PoolPhase → Bool
  | .holding => true
  | _ => false

def isAbandoned : PoolPhase → Bool
  | .abandoned => true
  | _ => false

def isOver : PoolPhase → Bool
  | .released | .rejected _ | .abandoned => true
  | _ => false

/-- The call is not between two of its operations. -/
def isSettled (phase : PoolPhase) : Bool := phase.isWaiting || phase.isHolding || phase.isOver

private theorem isQueued_of_foundRoom (phase : PoolPhase) (found : phase.foundRoom = true) :
    phase.isQueued = true := by
  cases phase <;> first | rfl | cases found

private theorem foundRoom_of_isWaiting (phase : PoolPhase) (waits : phase.isWaiting = true) :
    phase.foundRoom = true := by
  cases phase <;> first | rfl | cases waits

private theorem hasPermit_of_isOver (phase : PoolPhase) (ended : phase.isOver = true) :
    phase.hasPermit = false := by
  cases phase <;> first | rfl | cases ended

private theorem isHolding_of_isOver (phase : PoolPhase) (ended : phase.isOver = true) :
    phase.isHolding = false := by
  cases phase <;> first | rfl | cases ended

private theorem isWaiting_of_isOver (phase : PoolPhase) (ended : phase.isOver = true) :
    phase.isWaiting = false := by
  cases phase <;> first | rfl | cases ended

private theorem hasPermit_of_isActive (phase : PoolPhase) (active : phase.isActive = true) :
    phase.hasPermit = true := by
  cases phase <;> first | rfl | cases active

end PoolPhase

structure PoolConsistent (pool : Pool) (limiter : PoolLimiter) : Prop where
  permits : Conserved pool.max.value limiter.permits PoolPhase.hasPermit limiter.calls
  active : limiter.activeConns = limiter.calls.countP PoolPhase.isActive
  queued : limiter.queued = limiter.calls.countP PoolPhase.isQueued
  room : limiter.calls.countP PoolPhase.foundRoom ≤ pool.queue.capacity

theorem PoolConsistent.new (pool : Pool) : PoolConsistent pool (.new pool) :=
  ⟨rfl, rfl, rfl, Nat.zero_le _⟩

theorem PoolConsistent.call (consistent : PoolConsistent pool limiter) :
    PoolConsistent pool { limiter with calls := limiter.calls ++ [.entered] } := by
  obtain ⟨permits, active, queued, room⟩ := consistent
  refine ⟨permits.join rfl, ?_, ?_, ?_⟩
  · rw [countP_concat]
    exact active
  · rw [countP_concat]
    exact queued
  · rw [countP_concat]
    exact room

theorem PoolConsistent.moved {after : PoolLimiter} (consistent : PoolConsistent pool limiter)
    {call : Nat} (found : limiter.calls[call]? = some phase)
    (moved : PoolMoved pool limiter phase action after next) :
    PoolConsistent pool { after with calls := limiter.calls.set call next } := by
  obtain ⟨permits, active, queued, room⟩ := consistent
  -- each counter changes by what the phase of the one call contributes to it
  have activeMoved := countP_set_add PoolPhase.isActive found next
  have queuedMoved := countP_set_add PoolPhase.isQueued found next
  have roomMoved := countP_set_add PoolPhase.foundRoom found next
  have fewer := countP_le_of_imp PoolPhase.isQueued_of_foundRoom limiter.calls
  constructor
  · cases moved with
    | permit semaphore acquired | assign semaphore acquired =>
      exact permits.acquire acquired found rfl rfl
    | cancelAssigned | release => exact permits.release found rfl rfl
    | _ => exact permits.move found rfl
  · cases moved <;> simp [PoolPhase.isActive] at activeMoved ⊢ <;> omega
  · cases moved <;> simp [PoolPhase.isQueued] at queuedMoved ⊢ <;> omega
  · cases moved <;> simp [PoolPhase.foundRoom] at roomMoved ⊢ <;> omega

theorem PoolConsistent.preserved (accepted : step.Accepted (PoolLimiter.step pool))
    (consistent : PoolConsistent pool step.before) : PoolConsistent pool step.after := by
  rcases PoolLimiter.step_cases accepted with
    ⟨_, same⟩ | ⟨call, action, phase, next, moved, _, found, change, same⟩
  · rw [same]
    exact consistent.call
  · rw [same]
    exact consistent.moved found change

def PoolLabel.isCancel : PoolLabel → Bool
  | .act _ .cancel => true
  | _ => false

private theorem abandoned_of_step (accepted : step.Accepted (PoolLimiter.step pool)) :
    step.after.calls.countP PoolPhase.isAbandoned =
      step.before.calls.countP PoolPhase.isAbandoned + step.label.isCancel.toNat := by
  rcases PoolLimiter.step_cases accepted with
    ⟨label, same⟩ | ⟨call, action, phase, next, moved, label, found, change, same⟩
  · rw [same, label]
    exact countP_concat PoolPhase.isAbandoned step.before.calls .entered
  · have counted := countP_set_add PoolPhase.isAbandoned found next
    rw [same, label]
    cases change <;>
      simp [PoolPhase.isAbandoned, PoolLabel.isCancel] at counted ⊢ <;> exact counted

/-- Nobody is between two operations of an acquire call or of a permit's drop. -/
def PoolLimiter.Settled (limiter : PoolLimiter) : Prop :=
  ∀ phase ∈ limiter.calls, phase.isSettled = true

/-- No permit is held and no call is pending. -/
def PoolLimiter.Idle (limiter : PoolLimiter) : Prop :=
  ∀ phase ∈ limiter.calls, phase.isOver = true

instance (limiter : PoolLimiter) : Decidable limiter.Settled :=
  inferInstanceAs (Decidable (∀ phase ∈ limiter.calls, _))

instance (limiter : PoolLimiter) : Decidable limiter.Idle :=
  inferInstanceAs (Decidable (∀ phase ∈ limiter.calls, _))

/-- The labels of a call that is made and runs to its end with nothing in between. -/
def PoolLimiter.acquireAlone (limiter : PoolLimiter) : List PoolLabel :=
  [ .call, .act limiter.calls.length .tryAcquire, .act limiter.calls.length .startPoolUse,
    .act limiter.calls.length .handOver ]

def PoolLimiter.acquires (pool : Pool) (limiter : PoolLimiter) : Prop :=
  (final limiter (trace (PoolLimiter.step pool) limiter limiter.acquireAlone)).calls[
    limiter.calls.length]? = some .holding

instance (pool : Pool) (limiter : PoolLimiter) : Decidable (limiter.acquires pool) :=
  inferInstanceAs (Decidable (_ = _))

structure PoolBounded (pool : Pool) (limiter : PoolLimiter) : Prop where
  active : limiter.activeConns ≤ pool.max.value
  waiters : limiter.calls.countP PoolPhase.isWaiting ≤ pool.queue.capacity
  idle : limiter.Idle → limiter.acquires pool

structure PoolAccounted (limiter : PoolLimiter) : Prop where
  active : limiter.activeConns = limiter.calls.countP PoolPhase.isHolding
  queued : limiter.queued = limiter.calls.countP PoolPhase.isWaiting
  idle : limiter.Idle → limiter.activeConns = 0 ∧ limiter.queued = 0

theorem PoolLimiter.step_act {moved : PoolLimiter} {call : Nat}
    (found : limiter.calls[call]? = some phase)
    (advanced : limiter.advance pool phase action = some (moved, next)) :
    PoolLimiter.step pool limiter (.act call action) =
      some ({ moved with calls := limiter.calls.set call next }, ()) := by
  dsimp only [PoolLimiter.step]
  rw [found]
  dsimp only
  rw [advanced]
  rfl

theorem PoolLimiter.Idle.countP_eq_zero (idle : limiter.Idle) {kind : PoolPhase → Bool}
    (excluded : ∀ phase, phase.isOver = true → kind phase = false) :
    limiter.calls.countP kind = 0 := by
  rw [List.countP_eq_zero]
  intro phase member
  rw [excluded phase (idle phase member)]
  exact Bool.false_ne_true

theorem PoolLimiter.acquires_of_permit (pool : Pool) {permits : Semaphore}
    (acquired : limiter.permits.tryAcquire = some permits) : limiter.acquires pool := by
  have present (phase : PoolPhase) :
      ((limiter.calls ++ [PoolPhase.entered]).set limiter.calls.length phase)[
        limiter.calls.length]? =
        some phase := by
    apply List.getElem?_set_self
    rw [List.length_append]
    exact Nat.lt_succ_self _
  have entered : (limiter.calls ++ [PoolPhase.entered])[limiter.calls.length]? = some .entered :=
    List.getElem?_concat_length
  have tried : advance pool { limiter with calls := limiter.calls ++ [.entered] }
      .entered .tryAcquire =
      some (⟨permits, limiter.queued, limiter.activeConns, limiter.calls ++ [.entered]⟩,
        .permitted) := by
    dsimp only [advance]
    rw [acquired]
  unfold acquires acquireAlone
  simp only [trace, show step pool limiter .call =
    some ({ limiter with calls := limiter.calls ++ [.entered] }, ()) from rfl,
    step_act entered tried]
  rw [step_act (present .permitted) rfl]
  dsimp only
  rw [List.set_set, step_act (present .counted) rfl]
  dsimp only [final]
  rw [List.set_set]
  exact present .holding

section

variable (consistent : PoolConsistent pool limiter)

include consistent

theorem PoolConsistent.acquires (idle : limiter.Idle) : limiter.acquires pool := by
  have full := consistent.permits.permits_eq fun phase member =>
    PoolPhase.hasPermit_of_isOver phase (idle phase member)
  have positive := pool.max.positive
  exact PoolLimiter.acquires_of_permit pool (Semaphore.tryAcquire_of_pos (by omega))

theorem PoolConsistent.bounded : PoolBounded pool limiter := by
  refine ⟨?_, ?_, consistent.acquires⟩
  · rw [consistent.active]
    exact consistent.permits.bound PoolPhase.hasPermit_of_isActive
  · have fewer := countP_le_of_imp PoolPhase.foundRoom_of_isWaiting limiter.calls
    exact Nat.le_trans fewer consistent.room

theorem PoolConsistent.settled (settled : limiter.Settled) :
    limiter.activeConns = limiter.calls.countP PoolPhase.isHolding ∧
      limiter.queued = limiter.calls.countP PoolPhase.isWaiting +
        limiter.calls.countP PoolPhase.isAbandoned := by
  constructor
  · rw [consistent.active]
    apply countP_eq_of_agree
    intro phase member
    have here := settled phase member
    cases phase <;> first | rfl | cases here
  · rw [consistent.queued]
    apply countP_eq_add
    intro phase member
    have here := settled phase member
    cases phase <;> first | rfl | cases here

theorem PoolConsistent.accounted_iff (settled : limiter.Settled) :
    PoolAccounted limiter ↔ limiter.calls.countP PoolPhase.isAbandoned = 0 := by
  obtain ⟨active, queued⟩ := consistent.settled settled
  constructor
  · intro accounted
    have exactly := accounted.queued
    omega
  · intro unharmed
    refine ⟨active, by omega, ?_⟩
    intro idle
    have nobodyHolds := idle.countP_eq_zero PoolPhase.isHolding_of_isOver
    have nobodyWaits := idle.countP_eq_zero PoolPhase.isWaiting_of_isOver
    omega

theorem PoolConsistent.queued_eq :
    limiter.queued = limiter.calls.countP PoolPhase.foundRoom +
      limiter.calls.countP PoolPhase.isOverflowed := by
  rw [consistent.queued]
  apply countP_eq_add
  intro phase _
  cases phase <;> rfl

end

theorem PoolConsistent.of_run {steps : List (Step PoolLimiter PoolLabel Unit)}
    (isRun : IsRun (PoolLimiter.step pool) (.new pool) steps)
    (visits : Visits (.new pool) steps limiter) : PoolConsistent pool limiter :=
  isRun.invariant_visited (PoolConsistent pool) (.new pool)
    (fun _ accepted before => preserved accepted before) visits

/-- No call takes itself off a counter that is zero. The counter of the permits stays in its
width, and that of the queue does unless as many calls as are missing from the capacity to
the width are between finding the queue full and leaving it. -/
theorem pool_counters_fit {steps : List (Step PoolLimiter PoolLabel Unit)}
    (isRun : IsRun (PoolLimiter.step pool) (.new pool) steps)
    (visits : Visits (.new pool) steps limiter) :
    (∀ phase ∈ limiter.calls, (phase.isActive = true → 0 < limiter.activeConns) ∧
        (phase.isQueued = true → 0 < limiter.queued)) ∧
      limiter.activeConns < 2 ^ 32 ∧
      (pool.queue.capacity + limiter.calls.countP PoolPhase.isOverflowed < 2 ^ 32 →
        limiter.queued < 2 ^ 32) := by
  have consistent := PoolConsistent.of_run isRun visits
  refine ⟨?_, ?_, ?_⟩
  · intro phase member
    rw [consistent.active, consistent.queued]
    exact ⟨fun active => List.countP_pos_iff.mpr ⟨phase, member, active⟩,
      fun queued => List.countP_pos_iff.mpr ⟨phase, member, queued⟩⟩
  · exact Nat.lt_of_le_of_lt consistent.bounded.active pool.max.bounded
  · intro few
    have split := consistent.queued_eq
    have room := consistent.room
    omega

/-- In every state of every run the bounds hold. Once nobody is between two
operations both counters are exact unless a call was dropped while it waited. -/
theorem pool_accounting (pool : Pool) {steps : List (Step PoolLimiter PoolLabel Unit)}
    (isRun : IsRun (PoolLimiter.step pool) (.new pool) steps) :
    PoolBounded pool (final (.new pool) steps) ∧
      ((final (.new pool) steps).Settled →
        (PoolAccounted (final (.new pool) steps) ↔
          ∀ step ∈ steps, step.label.isCancel = false)) := by
  have consistent := PoolConsistent.of_run isRun (visits_final (.new pool) steps)
  refine ⟨consistent.bounded, ?_⟩
  intro settled
  have counted := isRun.final_count (fun limiter => limiter.calls.countP PoolPhase.isAbandoned)
    (fun step => step.label.isCancel) (fun step accepted => abandoned_of_step accepted)
  rw [consistent.accounted_iff settled]
  simp only [PoolLimiter.new, List.countP_nil, Nat.zero_add] at counted
  rw [show (final (PoolLimiter.new pool) steps).calls.countP PoolPhase.isAbandoned =
    steps.countP fun step => step.label.isCancel from counted, List.countP_eq_zero]
  simp only [Bool.not_eq_true]

def onePermit : Pool :=
  { Pool.default with max := .constant 1, queue := { capacity := 1, timeoutMs := 1000 } }

def PoolLimiter.run (pool : Pool) (limiter : PoolLimiter) (labels : List PoolLabel) :
    List (Step PoolLimiter PoolLabel Unit) :=
  trace (PoolLimiter.step pool) limiter labels

def takesPermit (call : Nat) : List PoolLabel :=
  [.call, .act call .tryAcquire, .act call .startPoolUse, .act call .handOver]

def entersQueue (call : Nat) : List PoolLabel :=
  [.call, .act call .tryAcquire, .act call .joinQueue]

def dropsPermit (call : Nat) : List PoolLabel := [.act call .finishPoolUse, .act call .release]

def expiredWait : List PoolLabel :=
  takesPermit 0 ++ entersQueue 1 ++ [.act 1 .expire, .act 1 .finishQueueWait] ++ dropsPermit 0

theorem pool_accounting_expiredWait :
    PoolBounded onePermit
        (final (.new onePermit) (PoolLimiter.run onePermit (.new onePermit) expiredWait)) ∧
      PoolAccounted
        (final (.new onePermit) (PoolLimiter.run onePermit (.new onePermit) expiredWait)) :=
  ⟨(pool_accounting onePermit (trace_isRun _ _ expiredWait)).1,
    ((pool_accounting onePermit (trace_isRun _ _ expiredWait)).2 (by decide)).mpr (by decide)⟩

def cancelledWait : List PoolLabel :=
  takesPermit 0 ++ entersQueue 1 ++ [.act 1 .cancel] ++ dropsPermit 0

def afterCancelledWait : PoolLimiter :=
  final (.new onePermit) (PoolLimiter.run onePermit (.new onePermit) cancelledWait)

/-- Nobody holds a permit or waits, and the queue counts one. The next call that
has to wait finds the queue full. -/
theorem cancelled_wait_stays_queued :
    afterCancelledWait.Settled ∧ afterCancelledWait.Idle ∧ afterCancelledWait.queued = 1 ∧
      ¬ PoolAccounted afterCancelledWait ∧
      (final afterCancelledWait (PoolLimiter.run onePermit afterCancelledWait
          (takesPermit 2 ++ entersQueue 3 ++ [.act 3 .leaveQueue]))).calls =
        [.released, .abandoned, .holding, .rejected .queueFull] := by
  refine ⟨by decide, by decide, by decide, ?_, by decide⟩
  intro accounted
  exact absurd (accounted.idle (by decide)).2 (by decide)

end Pavis.Upstream
