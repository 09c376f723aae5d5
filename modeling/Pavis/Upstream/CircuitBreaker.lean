/-
The circuit breaker of a cluster.

Every acquisition, every return of a permit and the cancellation of a waiting call
are steps of their own and interleave with those of other calls. The semaphores are
never closed.
-/

import Pavis.Config.Upstream
import Pavis.Library.Semaphore

namespace Pavis.Upstream

open Config CountingSemaphore LabelledRun

/-- Where a call is. From `holding` on it is the permit the call returned. -/
inductive BreakerPhase where
  | entered
  | refused
  | pending
  | assigned
  | admitted
  | holding
  | withdrawing
  | pendingLimit
  | cancelled
  | released
  deriving DecidableEq

inductive BreakerAction where
  | tryConnection
  | tryPending
  | assign
  | poll
  | dropPending
  | cancel
  | returnPending
  | dropPermit
  deriving DecidableEq

structure CircuitBreaker where
  maxConnections : Semaphore
  maxPendingRequests : Semaphore
  calls : List BreakerPhase
  deriving DecidableEq

inductive BreakerLabel where
  | call
  | act (call : Nat) (action : BreakerAction)
  deriving DecidableEq

namespace CircuitBreaker

def new (maxConnections maxPendingRequests : NonZeroU32) : CircuitBreaker :=
  { maxConnections := { permits := maxConnections.value }
    maxPendingRequests := { permits := maxPendingRequests.value }
    calls := [] }

def ofPolicy : CircuitBreakerPolicy → Option CircuitBreaker
  | .disabled => none
  | .enabled maxConnections maxPendingRequests => some (new maxConnections maxPendingRequests)

/-- A future that is dropped while it waits first gives back the connection permit
it was assigned, then its pending permit. -/
def advance (breaker : CircuitBreaker) (phase : BreakerPhase) :
    BreakerAction → Option (CircuitBreaker × BreakerPhase)
  | .tryConnection =>
    match phase with
    | .entered =>
      match breaker.maxConnections.tryAcquire with
      | some permits => some ({ breaker with maxConnections := permits }, .holding)
      | none => some (breaker, .refused)
    | _ => none
  | .tryPending =>
    match phase with
    | .refused =>
      match breaker.maxPendingRequests.tryAcquire with
      | some permits => some ({ breaker with maxPendingRequests := permits }, .pending)
      | none => some (breaker, .pendingLimit)
    | _ => none
  | .assign =>
    match phase with
    | .pending =>
      breaker.maxConnections.tryAcquire.map fun permits =>
        ({ breaker with maxConnections := permits }, .assigned)
    | _ => none
  | .poll =>
    match phase with
    | .assigned => some (breaker, .admitted)
    | _ => none
  | .dropPending =>
    match phase with
    | .admitted =>
      some ({ breaker with maxPendingRequests := breaker.maxPendingRequests.release },
        .holding)
    | _ => none
  | .cancel =>
    match phase with
    | .pending => some (breaker, .withdrawing)
    | .assigned =>
      some ({ breaker with maxConnections := breaker.maxConnections.release }, .withdrawing)
    | _ => none
  | .returnPending =>
    match phase with
    | .withdrawing =>
      some ({ breaker with maxPendingRequests := breaker.maxPendingRequests.release },
        .cancelled)
    | _ => none
  | .dropPermit =>
    match phase with
    | .holding =>
      some ({ breaker with maxConnections := breaker.maxConnections.release }, .released)
    | _ => none

def step : Machine CircuitBreaker BreakerLabel Unit := fun breaker label =>
  match label with
  | .call => some ({ breaker with calls := breaker.calls ++ [.entered] }, ())
  | .act call action =>
    match breaker.calls[call]? with
    | none => none
    | some phase =>
      (breaker.advance phase action).map fun moved =>
        ({ moved.1 with calls := breaker.calls.set call moved.2 }, ())

end CircuitBreaker

namespace BreakerPhase

def hasConnection : BreakerPhase → Bool
  | .assigned | .admitted | .holding => true
  | _ => false

def hasPending : BreakerPhase → Bool
  | .pending | .assigned | .admitted | .withdrawing => true
  | _ => false

def isLive : BreakerPhase → Bool
  | .admitted | .holding => true
  | _ => false

def isWaiting : BreakerPhase → Bool
  | .pending | .assigned => true
  | _ => false

def isOver : BreakerPhase → Bool
  | .pendingLimit | .cancelled | .released => true
  | _ => false

private theorem hasConnection_of_isLive (phase : BreakerPhase) (live : phase.isLive = true) :
    phase.hasConnection = true := by
  cases phase <;> first | rfl | cases live

theorem hasPending_of_isWaiting (phase : BreakerPhase) (waits : phase.isWaiting = true) :
    phase.hasPending = true := by
  cases phase <;> first | rfl | cases waits

private theorem hasNothing_of_isOver (phase : BreakerPhase) (ended : phase.isOver = true) :
    phase.hasConnection = false ∧ phase.hasPending = false := by
  cases phase <;> first | exact ⟨rfl, rfl⟩ | cases ended

end BreakerPhase

structure BreakerConserved (connections pending : Nat) (breaker : CircuitBreaker) : Prop where
  connections : Conserved connections breaker.maxConnections BreakerPhase.hasConnection
    breaker.calls
  pending : Conserved pending breaker.maxPendingRequests BreakerPhase.hasPending breaker.calls

section

variable {connections pending : Nat} {breaker after : CircuitBreaker}

theorem BreakerConserved.call (conserved : BreakerConserved connections pending breaker) :
    BreakerConserved connections pending
      { breaker with calls := breaker.calls ++ [.entered] } :=
  ⟨conserved.connections.join rfl, conserved.pending.join rfl⟩

theorem BreakerConserved.advance (conserved : BreakerConserved connections pending breaker)
    {call : Nat} {phase next : BreakerPhase} {action : BreakerAction}
    (found : breaker.calls[call]? = some phase)
    (advanced : breaker.advance phase action = some (after, next)) :
    BreakerConserved connections pending
      { after with calls := breaker.calls.set call next } := by
  obtain ⟨free, waiting⟩ := conserved
  cases action with
  | tryConnection =>
    cases phase with
    | entered =>
      dsimp only [CircuitBreaker.advance] at advanced
      cases acquired : breaker.maxConnections.tryAcquire with
      | some =>
        rw [acquired] at advanced
        cases advanced
        exact ⟨free.acquire acquired found rfl rfl, waiting.move found rfl⟩
      | none =>
        rw [acquired] at advanced
        cases advanced
        exact ⟨free.move found rfl, waiting.move found rfl⟩
    | _ => cases advanced
  | tryPending =>
    cases phase with
    | refused =>
      dsimp only [CircuitBreaker.advance] at advanced
      cases acquired : breaker.maxPendingRequests.tryAcquire with
      | some =>
        rw [acquired] at advanced
        cases advanced
        exact ⟨free.move found rfl, waiting.acquire acquired found rfl rfl⟩
      | none =>
        rw [acquired] at advanced
        cases advanced
        exact ⟨free.move found rfl, waiting.move found rfl⟩
    | _ => cases advanced
  | assign =>
    cases phase with
    | pending =>
      obtain ⟨permits, acquired, same⟩ := Option.map_eq_some_iff.mp advanced
      cases same
      exact ⟨free.acquire acquired found rfl rfl, waiting.move found rfl⟩
    | _ => cases advanced
  | poll =>
    cases phase <;> cases advanced
    exact ⟨free.move found rfl, waiting.move found rfl⟩
  | dropPending | returnPending =>
    cases phase <;> cases advanced
    exact ⟨free.move found rfl, waiting.release found rfl rfl⟩
  | cancel =>
    cases phase <;> cases advanced
    · exact ⟨free.move found rfl, waiting.move found rfl⟩
    · exact ⟨free.release found rfl rfl, waiting.move found rfl⟩
  | dropPermit =>
    cases phase <;> cases advanced
    exact ⟨free.release found rfl rfl, waiting.move found rfl⟩

theorem BreakerConserved.step {step : Step CircuitBreaker BreakerLabel Unit}
    (accepted : step.Accepted CircuitBreaker.step)
    (conserved : BreakerConserved connections pending step.before) :
    BreakerConserved connections pending step.after := by
  obtain ⟨before, label, after, output⟩ := step
  change CircuitBreaker.step before label = some (after, output) at accepted
  cases label with
  | call =>
    cases accepted
    exact conserved.call
  | act call =>
    dsimp only [CircuitBreaker.step] at accepted
    cases found : before.calls[call]? with
    | none =>
      rw [found] at accepted
      cases accepted
    | some =>
      rw [found] at accepted
      obtain ⟨⟨moved, next⟩, advanced, same⟩ := Option.map_eq_some_iff.mp accepted
      cases same
      exact conserved.advance found advanced

end

/-- In every state of every run the live permits and the waiting calls are within
the limits, and once everything is over no permit is missing. -/
theorem breaker_bounds {policy : CircuitBreakerPolicy}
    {maxConnections maxPendingRequests : NonZeroU32}
    (enabled : policy = .enabled maxConnections maxPendingRequests) {start : CircuitBreaker}
    (created : CircuitBreaker.ofPolicy policy = some start)
    {steps : List (Step CircuitBreaker BreakerLabel Unit)}
    (isRun : IsRun CircuitBreaker.step start steps) {breaker : CircuitBreaker}
    (visited : Visits start steps breaker) :
    breaker.calls.countP BreakerPhase.isLive ≤ maxConnections.value ∧
      breaker.calls.countP BreakerPhase.isWaiting ≤ maxPendingRequests.value ∧
      ((∀ phase ∈ breaker.calls, phase.isOver = true) →
        breaker.maxConnections.permits = maxConnections.value ∧
          breaker.maxPendingRequests.permits = maxPendingRequests.value) := by
  subst enabled
  cases created
  have conserved : BreakerConserved maxConnections.value maxPendingRequests.value breaker :=
    isRun.invariant_visited _ ⟨rfl, rfl⟩
      (fun step accepted before => BreakerConserved.step accepted before) visited
  refine ⟨conserved.connections.bound BreakerPhase.hasConnection_of_isLive,
    conserved.pending.bound BreakerPhase.hasPending_of_isWaiting, ?_⟩
  intro ended
  constructor
  · exact conserved.connections.permits_eq fun phase member =>
      (BreakerPhase.hasNothing_of_isOver phase (ended phase member)).1
  · exact conserved.pending.permits_eq fun phase member =>
      (BreakerPhase.hasNothing_of_isOver phase (ended phase member)).2

def crowdedBreaker : List BreakerLabel :=
  [ .call, .act 0 .tryConnection, .call, .act 1 .tryConnection, .act 1 .tryPending, .call,
    .act 2 .tryConnection, .act 2 .tryPending, .act 0 .dropPermit, .act 1 .assign,
    .act 1 .cancel, .act 1 .returnPending ]

def smallBreaker : CircuitBreaker := .new (.constant 1) (.constant 1)

def afterCrowd : CircuitBreaker :=
  final smallBreaker (trace CircuitBreaker.step smallBreaker crowdedBreaker)

theorem breaker_bounds_crowdedBreaker :
    afterCrowd.calls = [.released, .cancelled, .pendingLimit] ∧
      afterCrowd.maxConnections.permits = 1 ∧ afterCrowd.maxPendingRequests.permits = 1 :=
  ⟨by decide,
    (breaker_bounds
      (show CircuitBreakerPolicy.enabled (.constant 1) (.constant 1) = .enabled _ _ from rfl)
      (show _ = some smallBreaker from rfl)
      (trace_isRun CircuitBreaker.step smallBreaker crowdedBreaker)
      (visits_final smallBreaker _)).2.2 (by decide)⟩

end Pavis.Upstream
