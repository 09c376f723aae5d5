/-
Finite runs of a labelled step function.

A machine consumes one label at a time. It refuses the label, or it yields the
next state together with an output. A run keeps every accepted step with the
states on both sides of it, so that a property can speak about what happens
strictly between two positions.
-/

import Mathlib.Data.List.Basic

namespace LabelledRun

variable {σ ι ω : Type}

/-- A refused label is `none`. -/
abbrev Machine (σ ι ω : Type) := σ → ι → Option (σ × ω)

structure Step (σ ι ω : Type) where
  before : σ
  label : ι
  after : σ
  output : ω

def Step.Accepted (machine : Machine σ ι ω) (step : Step σ ι ω) : Prop :=
  machine step.before step.label = some (step.after, step.output)

def IsRun (machine : Machine σ ι ω) : σ → List (Step σ ι ω) → Prop
  | _, [] => True
  | state, step :: rest =>
    step.before = state ∧ step.Accepted machine ∧ IsRun machine step.after rest

/-- The run the labels drive, cut at the first refused label. -/
def trace (machine : Machine σ ι ω) : σ → List ι → List (Step σ ι ω)
  | _, [] => []
  | state, label :: rest =>
    match machine state label with
    | none => []
    | some (after, output) => ⟨state, label, after, output⟩ :: trace machine after rest

theorem trace_isRun (machine : Machine σ ι ω) (state : σ) (labels : List ι) :
    IsRun machine state (trace machine state labels) := by
  induction labels generalizing state with
  | nil => trivial
  | cons label rest ih =>
    unfold trace
    cases accepted : machine state label with
    | none => trivial
    | some result => exact ⟨rfl, accepted, ih result.1⟩

variable {machine : Machine σ ι ω} {state : σ} {step : Step σ ι ω}

theorem label_of_mem_trace {labels : List ι} (member : step ∈ trace machine state labels) :
    step.label ∈ labels := by
  induction labels generalizing state with
  | nil => cases member
  | cons label rest ih =>
    unfold trace at member
    split at member
    · cases member
    · rcases List.mem_cons.mp member with rfl | later
      · exact List.mem_cons_self
      · exact List.mem_cons_of_mem label (ih later)

/-- A step seen through views of states, labels and outputs. -/
def Step.view {σ' ι' ω' : Type} (state : σ → σ') (label : ι → ι') (output : ω → ω')
    (step : Step σ ι ω) : Step σ' ι' ω' :=
  ⟨state step.before, label step.label, state step.after, output step.output⟩

theorem trace_view {σ' ι' ω' : Type} {viewed : Machine σ' ι' ω'} {state : σ → σ'} {label : ι → ι'}
    {output : ω → ω'} (respects : ∀ current next,
      viewed (state current) (label next) =
        (machine current next).map (fun result => (state result.1, output result.2))) (start : σ)
    (labels : List ι) :
    (trace machine start labels).map (Step.view state label output) =
      trace viewed (state start) (labels.map label) := by
  induction labels generalizing start with
  | nil => rfl
  | cons head rest ih =>
    have moved := respects start head
    rw [List.map_cons, trace, trace, moved]
    cases accepted : machine start head with
    | none => rfl
    | some result => exact congrArg (List.cons _) (ih result.1)

/-- A step seen through a view of states, where only some of the labels show. -/
def Step.project {σ' ι' : Type} (state : σ → σ') (label : ι → Option ι') (step : Step σ ι ω) :
    Option (Step σ' ι' ω) :=
  (label step.label).map fun shown => ⟨state step.before, shown, state step.after, step.output⟩

variable {steps : List (Step σ ι ω)} {index : Nat}

/-- The steps of a run that show are a run of another machine, if that machine
follows them and the others change nothing that shows. -/
theorem IsRun.project {σ' ι' : Type} {target : Machine σ' ι' ω} {view : σ → σ'}
    {label : ι → Option ι'} (invariant : σ → Prop)
    (preserved : ∀ step : Step σ ι ω, step.Accepted machine →
      invariant step.before → invariant step.after)
    (hidden : ∀ step : Step σ ι ω, step.Accepted machine → invariant step.before →
      label step.label = none → view step.after = view step.before)
    (followed : ∀ step : Step σ ι ω, step.Accepted machine → invariant step.before →
      ∀ shown, label step.label = some shown →
        target (view step.before) shown = some (view step.after, step.output))
    (start : invariant state) (isRun : IsRun machine state steps) :
    IsRun target (view state) (steps.filterMap (Step.project view label)) := by
  induction steps generalizing state with
  | nil => trivial
  | cons head tail ih =>
    obtain ⟨rfl, accepted, rest⟩ := isRun
    have later := ih (preserved head accepted start) rest
    cases shows : label head.label with
    | none =>
      rw [hidden head accepted start shows] at later
      rwa [List.filterMap_cons, Step.project, shows]
    | some shown =>
      rw [List.filterMap_cons, Step.project, shows]
      exact ⟨rfl, followed head accepted start shown shows, later⟩

theorem IsRun.accepted_at (isRun : IsRun machine state steps) (found : steps[index]? = some step) :
    step.Accepted machine := by
  induction steps generalizing state index with
  | nil => cases found
  | cons head tail ih =>
    obtain ⟨_, accepted, rest⟩ := isRun
    cases index with
    | zero =>
      cases found
      exact accepted
    | succ => exact ih rest found

theorem IsRun.before_zero (isRun : IsRun machine state steps) (found : steps[0]? = some step) :
    step.before = state := by
  cases steps with
  | nil => cases found
  | cons =>
    cases found
    exact isRun.1

theorem IsRun.before_succ (isRun : IsRun machine state steps) {earlier later : Step σ ι ω}
    (foundEarlier : steps[index]? = some earlier) (foundLater : steps[index + 1]? = some later) :
    later.before = earlier.after := by
  induction steps generalizing state index with
  | nil => cases foundEarlier
  | cons head tail ih =>
    obtain ⟨_, _, rest⟩ := isRun
    cases index with
    | zero =>
      cases foundEarlier
      exact rest.before_zero foundLater
    | succ => exact ih rest foundEarlier foundLater

theorem found_of_lt {later : Nat} (found : steps[later]? = some step) (before : index ≤ later) :
    ∃ earlier, steps[index]? = some earlier := by
  obtain ⟨bound, _⟩ := List.getElem?_eq_some_iff.mp found
  exact ⟨steps[index], List.getElem?_eq_getElem (by omega)⟩

/-! ### Invariants -/

theorem IsRun.invariant_before (isRun : IsRun machine state steps) (invariant : σ → Prop)
    (start : invariant state) (preserved : ∀ step : Step σ ι ω, step.Accepted machine →
      invariant step.before → invariant step.after) (found : steps[index]? = some step) :
    invariant step.before := by
  induction index generalizing step with
  | zero =>
    rw [isRun.before_zero found]
    exact start
  | succ index ih =>
    obtain ⟨earlier, foundEarlier⟩ := found_of_lt found (Nat.le_succ index)
    rw [isRun.before_succ foundEarlier found]
    exact preserved earlier (isRun.accepted_at foundEarlier) (ih foundEarlier)

/-- The states a run goes through, its start included. -/
def Visits (state : σ) (steps : List (Step σ ι ω)) (visited : σ) : Prop :=
  visited = state ∨ ∃ step ∈ steps, step.after = visited

theorem IsRun.invariant_visited (isRun : IsRun machine state steps) (invariant : σ → Prop)
    (start : invariant state) (preserved : ∀ step : Step σ ι ω, step.Accepted machine →
      invariant step.before → invariant step.after) {visited : σ}
    (visits : Visits state steps visited) : invariant visited := by
  rcases visits with rfl | ⟨step, member, rfl⟩
  · exact start
  · obtain ⟨index, found⟩ := List.getElem?_of_mem member
    exact preserved step (isRun.accepted_at found)
      (isRun.invariant_before invariant start preserved found)

def final (state : σ) : List (Step σ ι ω) → σ
  | [] => state
  | step :: rest => final step.after rest

theorem visits_final (state : σ) (steps : List (Step σ ι ω)) :
    Visits state steps (final state steps) := by
  induction steps generalizing state with
  | nil => exact Or.inl rfl
  | cons head tail ih =>
    rcases ih head.after with same | ⟨step, member, same⟩
    · exact Or.inr ⟨head, List.mem_cons_self, same.symm⟩
    · exact Or.inr ⟨step, List.mem_cons_of_mem head member, same⟩

theorem countP_cons_toNat {α : Type} (counted : α → Bool) (head : α) (tail : List α) :
    (head :: tail).countP counted = (counted head).toNat + tail.countP counted := by
  rw [List.countP_cons, Nat.add_comm]
  cases counted head <;> rfl

section

variable (isRun : IsRun machine state steps)

include isRun

/-- A quantity that grows by one at every counted step and at no other counts them. -/
theorem IsRun.final_count (quantity : σ → Nat) (counted : Step σ ι ω → Bool)
    (grows : ∀ step : Step σ ι ω, step.Accepted machine →
      quantity step.after = quantity step.before + (counted step).toNat) :
    quantity (final state steps) = quantity state + steps.countP counted := by
  induction steps generalizing state with
  | nil => rfl
  | cons head tail ih =>
    obtain ⟨rfl, accepted, rest⟩ := isRun
    rw [countP_cons_toNat, ← Nat.add_assoc, ← grows head accepted]
    exact ih rest

/-- When every counted step earns or spends a unit, and no step does the opposite, the
number of counted steps is bounded by what was earned and spent. -/
theorem IsRun.countP_le (invariant : σ → Prop) (start : invariant state)
    (preserved : ∀ step : Step σ ι ω, step.Accepted machine →
      invariant step.before → invariant step.after) (counted : Step σ ι ω → Bool)
    (earned left : σ → Nat)
    (pays : ∀ step ∈ steps, step.Accepted machine → invariant step.before →
      earned step.before + (counted step).toNat + left step.after ≤
        earned step.after + left step.before) :
    earned state + steps.countP counted + left (final state steps) ≤
      earned (final state steps) + left state := by
  induction steps generalizing state with
  | nil => exact Nat.le_refl _
  | cons head tail ih =>
    obtain ⟨rfl, accepted, rest⟩ := isRun
    have paid := pays head List.mem_cons_self accepted start
    have bound := ih rest (preserved head accepted start)
      (fun step member => pays step (List.mem_cons_of_mem head member))
    rw [countP_cons_toNat]
    change _ + left (final head.after tail) ≤ earned (final head.after tail) + _
    omega

/-- What the accepted steps of a run preserve when they meet a condition that all
of its steps meet. -/
theorem IsRun.guarded_visited (invariant : σ → Prop) (start : invariant state)
    (guard : Step σ ι ω → Prop) (guarded : ∀ step ∈ steps, guard step)
    (preserved : ∀ step : Step σ ι ω, step.Accepted machine → guard step →
      invariant step.before → invariant step.after) {visited : σ}
    (visits : Visits state steps visited) : invariant visited := by
  induction steps generalizing state with
  | nil =>
    rcases visits with rfl | ⟨step, member, _⟩
    · exact start
    · cases member
  | cons head tail ih =>
    obtain ⟨rfl, accepted, rest⟩ := isRun
    have next := preserved head accepted (guarded head List.mem_cons_self) start
    rcases visits with rfl | ⟨step, member, rfl⟩
    · exact start
    · rcases List.mem_cons.mp member with rfl | later
      · exact next
      · exact ih rest next (fun step within => guarded step (List.mem_cons_of_mem head within))
          (Or.inr ⟨step, later, rfl⟩)

/-- A property established by one step is still there before a later step when
every step strictly between the two keeps it. -/
theorem IsRun.persists (property : σ → Prop) {first last : Nat} {opening closing : Step σ ι ω}
    (foundOpening : steps[first]? = some opening) (foundClosing : steps[last]? = some closing)
    (ordered : first < last) (established : property opening.after)
    (kept : ∀ index step, first < index → index < last →
      steps[index]? = some step → property step.before → property step.after) :
    property closing.before := by
  induction ordered generalizing closing with
  | refl =>
    rw [isRun.before_succ foundOpening foundClosing]
    exact established
  | @step last ordered ih =>
    obtain ⟨middle, foundMiddle⟩ := found_of_lt foundClosing (Nat.le_succ last)
    rw [isRun.before_succ foundMiddle foundClosing]
    apply kept last middle ordered (Nat.lt_succ_self last) foundMiddle
    exact ih foundMiddle
      (fun index step after within => kept index step after (by omega))

end

variable {front back : List (Step σ ι ω)}

theorem IsRun.append_right (isRun : IsRun machine state (front ++ back)) :
    ∃ middle, Visits state front middle ∧ IsRun machine middle back := by
  induction front generalizing state with
  | nil => exact ⟨state, Or.inl rfl, isRun⟩
  | cons head tail ih =>
    obtain ⟨_, _, rest⟩ := isRun
    obtain ⟨middle, visits, isRunBack⟩ := ih rest
    refine ⟨middle, Or.inr ?_, isRunBack⟩
    rcases visits with rfl | ⟨step, member, rfl⟩
    · exact ⟨head, List.mem_cons_self, rfl⟩
    · exact ⟨step, List.mem_cons_of_mem head member, rfl⟩

theorem IsRun.append_left (isRun : IsRun machine state (front ++ back)) :
    IsRun machine state front := by
  induction front generalizing state with
  | nil => trivial
  | cons head tail ih =>
    obtain ⟨starts, accepted, rest⟩ := isRun
    exact ⟨starts, accepted, ih rest⟩

theorem IsRun.around (isRun : IsRun machine state (front ++ step :: back)) :
    step.before = final state front ∧ step.Accepted machine ∧ IsRun machine step.after back := by
  induction front generalizing state with
  | nil => exact isRun
  | cons head tail ih => exact ih isRun.2.2

/-- The counted entries of a history behind the last one that resets the count. -/
def countSince {α : Type} (resets counted : α → Bool) (history : List α) : Nat :=
  (history.reverse.takeWhile fun entry => !resets entry).countP counted

theorem countSince_append_singleton {α : Type} (resets counted : α → Bool) (history : List α)
    (entry : α) :
    countSince resets counted (history ++ [entry]) =
      if resets entry then 0 else countSince resets counted history + (counted entry).toNat := by
  unfold countSince
  rw [List.reverse_append, List.reverse_singleton, List.singleton_append, List.takeWhile_cons]
  cases resets entry with
  | true => rfl
  | false =>
    rw [Bool.not_false, if_pos rfl, List.countP_cons, if_neg Bool.false_ne_true]
    cases counted entry <;> rfl

/-- An invariant may speak of the steps taken so far. -/
theorem IsRun.history_from (isRun : IsRun machine state steps)
    (invariant : List (Step σ ι ω) → σ → Prop) {history : List (Step σ ι ω)}
    (start : invariant history state) (guard : Step σ ι ω → Prop)
    (guarded : ∀ step ∈ steps, guard step)
    (preserved : ∀ history step, step.Accepted machine → guard step →
      invariant history step.before → invariant (history ++ [step]) step.after) :
    invariant (history ++ steps) (final state steps) := by
  induction steps generalizing state history with
  | nil =>
    rw [List.append_nil]
    exact start
  | cons head tail ih =>
    obtain ⟨rfl, accepted, rest⟩ := isRun
    rw [List.append_cons]
    exact ih rest (preserved history head accepted (guarded head List.mem_cons_self) start)
      (fun step within => guarded step (List.mem_cons_of_mem head within))

end LabelledRun
