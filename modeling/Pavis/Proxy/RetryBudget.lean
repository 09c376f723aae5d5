/-
The budget that all buffered request bodies share.

One step is one atomic operation together with the code up to the next one, so
the steps of any number of requests interleave at every load and every exchange.
-/

import Pavis.Library.LabelledRun
import Pavis.Proxy.Retry

namespace Pavis.Proxy

open LabelledRun WordArith

def retryBodyGlobalBudgetBytes : Nat := 32 * 1024 * 1024

/-- Where the owner of a guard stands in `try_add`: outside of it, before the
load, or before the exchange with what it loaded. -/
inductive AddPhase where
  | idle
  | loading (extra : Nat)
  | exchanging (extra used : Nat)
  deriving DecidableEq

structure LiveGuard where
  guard : BudgetGuard
  phase : AddPhase
  deriving DecidableEq

/-- Guards are known by their positions; a dropped one leaves a gap. -/
structure BudgetSystem where
  used : Nat
  guards : List (Option LiveGuard)
  deriving DecidableEq

def BudgetSystem.initial : BudgetSystem := { used := 0, guards := [] }

inductive BudgetAction where
  | create
  | tryAdd (owner extra : Nat)
  | load (owner : Nat)
  | compareExchange (owner : Nat)
  | drop (owner : Nat)
  deriving DecidableEq

/-- What a `try_add` that ends returns to its caller. -/
structure Returned where
  owner : Nat
  granted : Bool
  deriving DecidableEq

def BudgetSystem.live (system : BudgetSystem) (owner : Nat) : Option LiveGuard :=
  (system.guards[owner]?).join

def BudgetSystem.put (system : BudgetSystem) (owner : Nat) (live : Option LiveGuard) :
    BudgetSystem :=
  { system with guards := system.guards.set owner live }

/-- A subtraction of `u64` values wraps. -/
def wrappingSub (left right : Nat) : Nat := (left + 2 ^ 64 - right) % 2 ^ 64

def budgetStep : Machine BudgetSystem BudgetAction (Option Returned) := fun system action =>
  match action with
  | .create => some ({ system with guards := system.guards ++ [some ⟨.new, .idle⟩] }, none)
  | .tryAdd owner extra =>
    match system.live owner with
    | some ⟨guard, .idle⟩ =>
      if extra = 0 then some (system, some ⟨owner, true⟩)
      else some (system.put owner (some ⟨guard, .loading extra⟩), none)
    | _ => none
  | .load owner =>
    match system.live owner with
    | some ⟨guard, .loading extra⟩ =>
      if saturatingAdd u64Max system.used extra > retryBodyGlobalBudgetBytes then
        some (system.put owner (some ⟨guard, .idle⟩), some ⟨owner, false⟩)
      else some (system.put owner (some ⟨guard, .exchanging extra system.used⟩), none)
    | _ => none
  | .compareExchange owner =>
    match system.live owner with
    | some ⟨guard, .exchanging extra used⟩ =>
      if system.used = used then
        some
          ({ system.put owner (some ⟨⟨saturatingAdd u64Max guard.bytes extra⟩, .idle⟩) with
              used := saturatingAdd u64Max used extra },
            some ⟨owner, true⟩)
      else some (system.put owner (some ⟨guard, .loading extra⟩), none)
    | _ => none
  | .drop owner =>
    match system.live owner with
    | some ⟨guard, .idle⟩ =>
      some
        ({ system.put owner none with
            used := if guard.bytes > 0 then wrappingSub system.used guard.bytes
              else system.used },
          none)
    | _ => none

abbrev BudgetTick := Step BudgetSystem BudgetAction (Option Returned)

inductive BudgetMoves (system : BudgetSystem) :
    BudgetAction → BudgetSystem → Option Returned → Prop where
  | created :
      BudgetMoves system .create
        { system with guards := system.guards ++ [some ⟨.new, .idle⟩] } none
  | trivial (owner : Nat) (guard : BudgetGuard) (live : system.live owner = some ⟨guard, .idle⟩) :
      BudgetMoves system (.tryAdd owner 0) system (some ⟨owner, true⟩)
  | started (owner extra : Nat) (guard : BudgetGuard)
      (live : system.live owner = some ⟨guard, .idle⟩) (positive : extra ≠ 0) :
      BudgetMoves system (.tryAdd owner extra)
        (system.put owner (some ⟨guard, .loading extra⟩)) none
  | refused (owner extra : Nat) (guard : BudgetGuard)
      (live : system.live owner = some ⟨guard, .loading extra⟩)
      (exceeds : saturatingAdd u64Max system.used extra > retryBodyGlobalBudgetBytes) :
      BudgetMoves system (.load owner) (system.put owner (some ⟨guard, .idle⟩))
        (some ⟨owner, false⟩)
  | loaded (owner extra : Nat) (guard : BudgetGuard)
      (live : system.live owner = some ⟨guard, .loading extra⟩)
      (within : saturatingAdd u64Max system.used extra ≤ retryBodyGlobalBudgetBytes) :
      BudgetMoves system (.load owner)
        (system.put owner (some ⟨guard, .exchanging extra system.used⟩)) none
  | exchanged (owner extra : Nat) (guard : BudgetGuard)
      (live : system.live owner = some ⟨guard, .exchanging extra system.used⟩) :
      BudgetMoves system (.compareExchange owner)
        { system.put owner (some ⟨⟨saturatingAdd u64Max guard.bytes extra⟩, .idle⟩) with
          used := saturatingAdd u64Max system.used extra }
        (some ⟨owner, true⟩)
  | contended (owner extra used : Nat) (guard : BudgetGuard)
      (live : system.live owner = some ⟨guard, .exchanging extra used⟩)
      (moved : system.used ≠ used) :
      BudgetMoves system (.compareExchange owner)
        (system.put owner (some ⟨guard, .loading extra⟩)) none
  | dropped (owner : Nat) (guard : BudgetGuard)
      (live : system.live owner = some ⟨guard, .idle⟩) :
      BudgetMoves system (.drop owner)
        { system.put owner none with
          used := if guard.bytes > 0 then wrappingSub system.used guard.bytes else system.used }
        none

variable {system after : BudgetSystem} {action : BudgetAction} {output : Option Returned}

theorem budgetStep_moves (accepted : budgetStep system action = some (after, output)) :
    BudgetMoves system action after output := by
  cases action with
  | create =>
    cases accepted
    exact .created
  | tryAdd owner extra =>
    dsimp only [budgetStep] at accepted
    split at accepted
    · rename_i guard live
      split at accepted
      · rename_i zero
        subst zero
        cases accepted
        exact .trivial owner guard live
      · rename_i positive
        cases accepted
        exact .started owner extra guard live positive
    · cases accepted
  | load owner =>
    dsimp only [budgetStep] at accepted
    split at accepted
    · rename_i guard extra live
      split at accepted
      · rename_i exceeds
        cases accepted
        exact .refused owner extra guard live exceeds
      · rename_i within
        cases accepted
        exact .loaded owner extra guard live (Nat.le_of_not_gt within)
    · cases accepted
  | compareExchange owner =>
    dsimp only [budgetStep] at accepted
    split at accepted
    · rename_i guard extra used live
      split at accepted
      · rename_i same
        subst same
        cases accepted
        exact .exchanged owner extra guard live
      · rename_i moved
        cases accepted
        exact .contended owner extra used guard live moved
    · cases accepted
  | drop owner =>
    dsimp only [budgetStep] at accepted
    split at accepted
    · rename_i guard live
      cases accepted
      exact .dropped owner guard live
    · cases accepted

def recorded : Option LiveGuard → Nat
  | none => 0
  | some live => live.guard.bytes

def BudgetSystem.recordedBytes (system : BudgetSystem) : Nat :=
  (system.guards.map recorded).sum

namespace BudgetSystem

variable {system : BudgetSystem} {owner : Nat} {live : LiveGuard}

theorem slot_of_live (found : system.live owner = some live) :
    system.guards[owner]? = some (some live) :=
  Option.join_eq_some_iff.mp found

private theorem sum_set {guards : List (Option LiveGuard)} {owner : Nat}
    {before : Option LiveGuard} (found : guards[owner]? = some before) (after : Option LiveGuard) :
    ((guards.set owner after).map recorded).sum + recorded before =
      (guards.map recorded).sum + recorded after := by
  induction guards generalizing owner with
  | nil => cases found
  | cons head rest ih =>
    cases owner with
    | zero =>
      cases found
      simp only [List.set_cons_zero, List.map_cons, List.sum_cons]
      omega
    | succ =>
      have later := ih found
      simp only [List.set_cons_succ, List.map_cons, List.sum_cons]
      omega

theorem recordedBytes_put (found : system.live owner = some live) (after : Option LiveGuard) :
    (system.put owner after).recordedBytes + live.guard.bytes =
      system.recordedBytes + recorded after :=
  sum_set (slot_of_live found) after

theorem bytes_le_recordedBytes (found : system.live owner = some live) :
    live.guard.bytes ≤ system.recordedBytes := by
  have moved := recordedBytes_put found none
  change _ = _ + 0 at moved
  omega

theorem live_put (found : system.live owner = some live) (after : Option LiveGuard) :
    (system.put owner after).live owner = after := by
  have inside := (List.getElem?_eq_some_iff.mp (slot_of_live found)).1
  rw [BudgetSystem.live, BudgetSystem.put, List.getElem?_set_self inside]
  rfl

theorem live_put_other {other : Nat} (different : owner ≠ other) (after : Option LiveGuard) :
    (system.put owner after).live other = system.live other := by
  rw [BudgetSystem.live, BudgetSystem.put, List.getElem?_set_ne different]
  rfl

end BudgetSystem

/-! ### The invariant -/

/-- A pending call adds something, and before the exchange it was checked
against the budget. -/
def AddPhase.Checked : AddPhase → Prop
  | .idle => True
  | .loading extra => extra ≠ 0
  | .exchanging extra used => extra ≠ 0 ∧ used + extra ≤ retryBodyGlobalBudgetBytes

structure Balanced (system : BudgetSystem) : Prop where
  balanced : system.used = system.recordedBytes
  bounded : system.used ≤ retryBodyGlobalBudgetBytes
  checked : ∀ owner live, system.live owner = some live → live.phase.Checked

theorem balanced_initial : Balanced .initial :=
  ⟨rfl, Nat.zero_le _, fun owner live found => by
    rw [BudgetSystem.live, BudgetSystem.initial, List.getElem?_nil] at found
    cases found⟩

variable {left right owner index : Nat} {live : LiveGuard} {steps : List BudgetTick}
  {step : BudgetTick}

private theorem budgetAdd_of_le
    (within : saturatingAdd u64Max left right ≤ retryBodyGlobalBudgetBytes) :
    saturatingAdd u64Max left right = left + right := by
  unfold saturatingAdd u64Max retryBodyGlobalBudgetBytes at *
  omega

private theorem budgetAdd_of_sum_le (within : left + right ≤ retryBodyGlobalBudgetBytes) :
    saturatingAdd u64Max left right = left + right :=
  saturatingAdd_of_le (Nat.le_trans within (by decide))

theorem wrappingSub_of_le (enough : right ≤ left) (bounded : left ≤ retryBodyGlobalBudgetBytes) :
    wrappingSub left right = left - right := by
  unfold wrappingSub
  unfold retryBodyGlobalBudgetBytes at bounded
  omega

private theorem checked_put
    (checked : ∀ owner live, system.live owner = some live → live.phase.Checked)
    (found : system.live owner = some live) {after : Option LiveGuard}
    (fresh : ∀ live, after = some live → live.phase.Checked) :
    ∀ other live, (system.put owner after).live other = some live → live.phase.Checked := by
  intro other now foundNow
  by_cases same : owner = other
  · subst same
    rw [BudgetSystem.live_put found] at foundNow
    exact fresh now foundNow
  · rw [BudgetSystem.live_put_other same] at foundNow
    exact checked other now foundNow

private theorem balanced_phase {guard : BudgetGuard} {phase next : AddPhase}
    (holds : Balanced system) (found : system.live owner = some ⟨guard, phase⟩)
    (checked : next.Checked) : Balanced (system.put owner (some ⟨guard, next⟩)) := by
  have moved := BudgetSystem.recordedBytes_put found (some ⟨guard, next⟩)
  change _ + guard.bytes = _ + guard.bytes at moved
  have balanced := holds.balanced
  refine ⟨?_, holds.bounded, checked_put holds.checked found ?_⟩
  · change system.used = _
    omega
  · intro live same
    cases same
    exact checked

theorem BudgetMoves.balanced (moves : BudgetMoves system action after output)
    (holds : Balanced system) : Balanced after := by
  cases moves with
  | created =>
    refine ⟨?_, holds.bounded, ?_⟩
    · have balanced := holds.balanced
      simp only [BudgetSystem.recordedBytes, List.map_append, List.sum_append] at balanced ⊢
      exact balanced
    · intro owner live found
      rw [BudgetSystem.live, List.getElem?_append] at found
      split at found
      · exact holds.checked owner live found
      · cases index : owner - system.guards.length with
        | zero =>
          rw [index] at found
          cases found
          exact True.intro
        | succ =>
          rw [index] at found
          cases found
  | trivial => exact holds
  | started owner extra guard live positive => exact balanced_phase holds live positive
  | refused owner extra guard live => exact balanced_phase holds live True.intro
  | loaded owner extra guard live within =>
    refine balanced_phase holds live ⟨holds.checked owner _ live, ?_⟩
    rw [← budgetAdd_of_le within]
    exact within
  | exchanged owner extra guard live =>
    have within : system.used + extra ≤ retryBodyGlobalBudgetBytes :=
      (holds.checked owner _ live).2
    have own : guard.bytes ≤ system.recordedBytes := BudgetSystem.bytes_le_recordedBytes live
    have balanced := holds.balanced
    have counter := budgetAdd_of_sum_le within
    have bytes : saturatingAdd u64Max guard.bytes extra = guard.bytes + extra :=
      budgetAdd_of_sum_le (by omega)
    have moved := BudgetSystem.recordedBytes_put live
      (some ⟨⟨saturatingAdd u64Max guard.bytes extra⟩, .idle⟩)
    change _ + guard.bytes = _ + saturatingAdd u64Max guard.bytes extra at moved
    refine ⟨?_, ?_, checked_put holds.checked live ?_⟩
    · change saturatingAdd u64Max system.used extra =
        BudgetSystem.recordedBytes (system.put owner _)
      omega
    · change saturatingAdd u64Max system.used extra ≤ retryBodyGlobalBudgetBytes
      omega
    · intro now same
      cases same
      exact True.intro
  | contended owner extra used guard live =>
    exact balanced_phase holds live (holds.checked owner _ live).1
  | dropped owner guard live =>
    have own : guard.bytes ≤ system.recordedBytes := BudgetSystem.bytes_le_recordedBytes live
    have balanced := holds.balanced
    have bounded := holds.bounded
    have returned := wrappingSub_of_le (by omega : guard.bytes ≤ system.used) bounded
    have moved := BudgetSystem.recordedBytes_put live none
    change _ + guard.bytes = _ + 0 at moved
    have counter : (if guard.bytes > 0 then wrappingSub system.used guard.bytes
        else system.used) = system.used - guard.bytes := by
      split
      · exact returned
      · omega
    refine ⟨?_, ?_, checked_put holds.checked live ?_⟩
    · change (if guard.bytes > 0 then _ else _) = BudgetSystem.recordedBytes (system.put owner _)
      omega
    · change (if guard.bytes > 0 then _ else _) ≤ retryBodyGlobalBudgetBytes
      omega
    · intro now same
      cases same

private theorem balanced_visited (isRun : IsRun budgetStep .initial steps) {visited : BudgetSystem}
    (visits : Visits .initial steps visited) : Balanced visited :=
  isRun.invariant_visited Balanced balanced_initial
    (fun _ accepted holds => (budgetStep_moves accepted).balanced holds) visits

private theorem balanced_before (isRun : IsRun budgetStep .initial steps)
    (found : steps[index]? = some step) : Balanced step.before :=
  isRun.invariant_before Balanced balanced_initial
    (fun _ accepted holds => (budgetStep_moves accepted).balanced holds) found

theorem BudgetMoves.drop_exact (moves : BudgetMoves system (.drop owner) after output)
    (holds : Balanced system) (found : system.live owner = some live) :
    live.guard.bytes ≤ system.used ∧ after.used = system.used - live.guard.bytes := by
  have own := BudgetSystem.bytes_le_recordedBytes found
  have balanced := holds.balanced
  have enough : live.guard.bytes ≤ system.used := by omega
  refine ⟨enough, ?_⟩
  cases moves with
  | dropped _ guard idle =>
    rw [found] at idle
    cases idle
    change (if guard.bytes > 0 then wrappingSub system.used guard.bytes else system.used) = _
    split
    · exact wrappingSub_of_le enough holds.bounded
    · dsimp only
      omega

/-! ### One call of `try_add` -/

def BudgetSystem.bytesOf (system : BudgetSystem) (owner : Nat) : Option Nat :=
  (system.live owner).map (fun live => live.guard.bytes)

def BudgetAction.owner? : BudgetAction → Option Nat
  | .create => none
  | .tryAdd owner _ => some owner
  | .load owner => some owner
  | .compareExchange owner => some owner
  | .drop owner => some owner

/-- What a call between two of its operations has asked for. -/
def AddPhase.asked : AddPhase → Option Nat
  | .idle => none
  | .loading extra | .exchanging extra _ => some extra

/-- The owner is inside a call of `try_add`. -/
def Asks (owner extra : Nat) (guard : BudgetGuard) (system : BudgetSystem) : Prop :=
  ∃ phase, system.live owner = some ⟨guard, phase⟩ ∧ phase.asked = some extra

variable {extra : Nat} {guard : BudgetGuard} {granted : Bool}

private theorem bytesOf_live (found : system.live owner = some live) :
    system.bytesOf owner = some live.guard.bytes := by
  rw [BudgetSystem.bytesOf, found, Option.map_some]

private theorem live_append (found : system.live owner = some live)
    (more : List (Option LiveGuard)) :
    BudgetSystem.live { system with guards := system.guards ++ more } owner = some live := by
  have slot := BudgetSystem.slot_of_live found
  have inside := (List.getElem?_eq_some_iff.mp slot).1
  rw [BudgetSystem.live, List.getElem?_append_left inside, slot]
  rfl

theorem BudgetMoves.live_other (moves : BudgetMoves system action after output)
    (other : action.owner? ≠ some owner) (found : system.live owner = some live) :
    after.live owner = some live := by
  cases moves with
  | created => exact live_append found _
  | trivial => exact found
  | _ =>
    exact (BudgetSystem.live_put_other (fun same => other (congrArg some same)) _).trans found

/-- While a call goes on, the steps of the other requests leave the guard
alone, and its own steps leave the counter and the guard alone. -/
theorem Asks.kept (asks : Asks owner extra guard system)
    (moves : BudgetMoves system action after output)
    (unreturned : ∀ granted, output ≠ some ⟨owner, granted⟩) :
    Asks owner extra guard after ∧ (action.owner? = some owner → after.used = system.used) := by
  obtain ⟨phase, found, asked⟩ := id asks
  by_cases own : action.owner? = some owner
  · cases moves with
    | created => cases own
    | trivial => exact ⟨asks, fun _ => rfl⟩
    | started _ _ _ idle | dropped _ _ idle =>
      cases own
      cases found.symm.trans idle
      cases asked
    | refused =>
      cases own
      exact absurd rfl (unreturned false)
    | exchanged =>
      cases own
      exact absurd rfl (unreturned true)
    | loaded _ _ _ waiting | contended _ _ _ _ waiting =>
      cases own
      cases found.symm.trans waiting
      exact ⟨⟨_, BudgetSystem.live_put waiting _, asked⟩, fun _ => rfl⟩
  · exact ⟨⟨phase, moves.live_other own found, asked⟩, fun same => absurd same own⟩

theorem Asks.returns (asks : Asks owner extra guard system) (positive : extra ≠ 0)
    (moves : BudgetMoves system action after (some ⟨owner, granted⟩)) :
    ∃ held, after.live owner = some held ∧ guard.tryAdd granted extra = (held.guard, granted) := by
  obtain ⟨phase, found, asked⟩ := asks
  cases moves with
  | trivial _ _ waiting =>
    cases found.symm.trans waiting
    cases asked
  | refused _ _ _ waiting | exchanged _ _ _ waiting =>
    cases found.symm.trans waiting
    cases asked
    exact ⟨_, BudgetSystem.live_put waiting _, by simp [BudgetGuard.tryAdd, positive]⟩

theorem BudgetMoves.call_asks (moves : BudgetMoves system (.tryAdd owner extra) after output)
    (unreturned : output ≠ some ⟨owner, true⟩) :
    extra ≠ 0 ∧ after.used = system.used ∧
      ∃ guard, system.live owner = some ⟨guard, .idle⟩ ∧ Asks owner extra guard after := by
  cases moves with
  | trivial => exact absurd rfl unreturned
  | started _ _ guard idle positive =>
    exact ⟨positive, rfl, guard, idle, _, BudgetSystem.live_put idle _, rfl⟩

theorem BudgetMoves.call_unrefused
    (moves : BudgetMoves system (.tryAdd owner extra) after output) :
    output ≠ some ⟨owner, false⟩ := by
  cases moves with
  | trivial | started => simp

theorem BudgetMoves.refusal (moves : BudgetMoves system action after (some ⟨owner, false⟩)) :
    after.used = system.used ∧ after.bytesOf owner = system.bytesOf owner := by
  cases moves with
  | refused _ extra guard waiting =>
    exact ⟨rfl, (bytesOf_live (BudgetSystem.live_put waiting _)).trans (bytesOf_live waiting).symm⟩

private theorem moves_at {state : BudgetSystem} (isRun : IsRun budgetStep state steps)
    (found : steps[index]? = some step) :
    BudgetMoves step.before step.label step.after step.output :=
  budgetStep_moves (isRun.accepted_at found)

section Call

variable {steps : List BudgetTick} {state : BudgetSystem} {first last : Nat}
  {opening closing : BudgetTick}

section

variable (isRun : IsRun budgetStep state steps)
  (foundOpening : steps[first]? = some opening) (call : opening.label = .tryAdd owner extra)
  (unreturned : ∀ index step, first ≤ index → index < last → steps[index]? = some step →
    ∀ granted, step.output ≠ some ⟨owner, granted⟩)

include isRun foundOpening call unreturned

private theorem asks_within (foundClosing : steps[last]? = some closing)
    (ordered : first < last) :
    extra ≠ 0 ∧ opening.after.used = opening.before.used ∧
      ∃ guard, opening.before.live owner = some ⟨guard, .idle⟩ ∧
        Asks owner extra guard closing.before := by
  have moves := moves_at isRun foundOpening
  rw [call] at moves
  obtain ⟨positive, kept, guard, idle, asks⟩ :=
    moves.call_asks (unreturned first opening (Nat.le_refl _) ordered foundOpening true)
  refine ⟨positive, kept, guard, idle,
    isRun.persists (Asks owner extra guard) foundOpening foundClosing ordered asks ?_⟩
  intro index step after within found asks
  exact (asks.kept (moves_at isRun found)
    (unreturned index step (Nat.le_of_lt after) within found)).1

private theorem refused_call_unchanged (foundClosing : steps[last]? = some closing)
    (ordered : first ≤ last) (refused : closing.output = some ⟨owner, false⟩) :
    closing.after.bytesOf owner = opening.before.bytesOf owner ∧
      ∀ index step, first ≤ index → index ≤ last → steps[index]? = some step →
        step.label.owner? = some owner → step.after.used = step.before.used := by
  have ending := moves_at isRun foundClosing
  rw [refused] at ending
  rcases Nat.lt_or_eq_of_le ordered with earlier | same
  · obtain ⟨_, kept, guard, idle, phase, live, _⟩ :=
      asks_within isRun foundOpening call unreturned foundClosing earlier
    refine ⟨by rw [ending.refusal.2, bytesOf_live live, bytesOf_live idle], ?_⟩
    intro index step lower upper found own
    rcases Nat.lt_or_eq_of_le upper with within | atEnd
    · rcases Nat.lt_or_eq_of_le lower with after | atStart
      · obtain ⟨_, _, _, _, still⟩ := asks_within isRun foundOpening call
          (fun position other low high => unreturned position other low (by omega)) found after
        exact (still.kept (moves_at isRun found) (unreturned index step lower within found)).2 own
      · subst atStart
        rw [foundOpening] at found
        cases found
        exact kept
    · subst atEnd
      rw [foundClosing] at found
      cases found
      exact ending.refusal.1
  · subst same
    rw [foundOpening] at foundClosing
    cases foundClosing
    rw [call] at ending
    exact absurd rfl ending.call_unrefused

end

/-- Whatever happens between its operations, a call does to its guard what the buffering
loop counts on. -/
theorem returned_tryAdd (isRun : IsRun budgetStep state steps)
    (foundOpening : steps[first]? = some opening) (call : opening.label = .tryAdd owner extra)
    (unreturned : ∀ index step, first ≤ index → index < last → steps[index]? = some step →
      ∀ granted, step.output ≠ some ⟨owner, granted⟩)
    (foundClosing : steps[last]? = some closing) (ordered : first ≤ last)
    (returned : closing.output = some ⟨owner, granted⟩) :
    ∃ before after, opening.before.live owner = some before ∧
      closing.after.live owner = some after ∧
      before.guard.tryAdd granted extra = (after.guard, granted) := by
  have ends := moves_at isRun foundClosing
  rw [returned] at ends
  rcases Nat.lt_or_eq_of_le ordered with earlier | rfl
  · obtain ⟨positive, _, guard, idle, asks⟩ :=
      asks_within isRun foundOpening call unreturned foundClosing earlier
    obtain ⟨held, live, computes⟩ := asks.returns positive ends
    exact ⟨_, held, idle, live, computes⟩
  · rw [foundOpening] at foundClosing
    cases foundClosing
    rw [call] at ends
    generalize opening.after = next at ends
    cases ends with
    | trivial _ guard idle => exact ⟨_, _, idle, idle, rfl⟩

end Call

/-- In every interleaving the counter is the sum of the live guards and within
the budget, a drop takes no more than the counter holds, and a call that
returns `false` changes nothing. -/
theorem retry_budget_conserved {steps : List BudgetTick} (isRun : IsRun budgetStep .initial steps) :
    (∀ visited, Visits .initial steps visited →
      visited.used = visited.recordedBytes ∧ visited.used ≤ retryBodyGlobalBudgetBytes) ∧
    (∀ step ∈ steps, ∀ owner live, step.label = .drop owner →
      step.before.live owner = some live →
      live.guard.bytes ≤ step.before.used ∧
        step.after.used = step.before.used - live.guard.bytes) ∧
    (∀ (first last : Nat) (opening closing : BudgetTick) (owner extra : Nat),
      steps[first]? = some opening → steps[last]? = some closing → first ≤ last →
      opening.label = .tryAdd owner extra → closing.output = some ⟨owner, false⟩ →
      (∀ (index : Nat) (step : BudgetTick), first ≤ index → index < last →
        steps[index]? = some step → ∀ granted, step.output ≠ some ⟨owner, granted⟩) →
      closing.after.bytesOf owner = opening.before.bytesOf owner ∧
        ∀ (index : Nat) (step : BudgetTick), first ≤ index → index ≤ last →
          steps[index]? = some step → step.label.owner? = some owner →
          step.after.used = step.before.used) := by
  refine ⟨?_, ?_, ?_⟩
  · intro visited visits
    have holds := balanced_visited isRun visits
    exact ⟨holds.balanced, holds.bounded⟩
  · intro step member owner live label found
    obtain ⟨index, foundStep⟩ := List.getElem?_of_mem member
    have moves := moves_at isRun foundStep
    rw [label] at moves
    exact moves.drop_exact (balanced_before isRun foundStep) found
  · intro first last opening closing owner extra foundOpening foundClosing ordered call refused
      unreturned
    exact refused_call_unchanged isRun foundOpening call unreturned foundClosing ordered refused

def contendedActions : List BudgetAction :=
  [.create, .create, .tryAdd 0 5, .tryAdd 1 7, .load 0, .load 1, .compareExchange 0,
    .compareExchange 1, .load 1, .compareExchange 1, .create, .tryAdd 2 (32 * 1024 * 1024),
    .load 2, .drop 0]

def contendedRun : List BudgetTick := trace budgetStep .initial contendedActions

theorem contended_run_conserved :
    (final .initial contendedRun).used = 7 ∧
      (final .initial contendedRun).used = (final .initial contendedRun).recordedBytes := by
  have conserved := retry_budget_conserved (trace_isRun budgetStep .initial contendedActions)
  exact ⟨by decide, (conserved.1 _ (visits_final _ _)).1⟩

theorem returned_tryAdd_contended :
    ∃ opening closing, contendedRun[3]? = some opening ∧ contendedRun[9]? = some closing ∧
      ∃ before after, opening.before.live 1 = some before ∧ closing.after.live 1 = some after ∧
        before.guard.tryAdd true 7 = (after.guard, true) := by
  have quiet : ∀ index < 9, 3 ≤ index → ∀ step ∈ contendedRun[index]?, ∀ granted,
      step.output ≠ some ⟨1, granted⟩ := by decide
  exact ⟨_, _, rfl, rfl, returned_tryAdd (trace_isRun budgetStep .initial contendedActions)
    (show contendedRun[3]? = some _ from rfl) rfl
    (fun index step lower upper => quiet index upper lower step)
    (show contendedRun[9]? = some _ from rfl) (by decide) rfl⟩

end Pavis.Proxy
