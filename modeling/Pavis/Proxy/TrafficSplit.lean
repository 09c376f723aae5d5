/-
The split of the traffic of a route among its destinations.

The loop walks the destinations with what is left of the pick and stops at the first
whose weight exceeds it.
-/

import Mathlib.Data.Nat.Count
import Pavis.Proxy.RequestFilter

namespace Pavis.Proxy

open ByteText Config WordArith

def totalWeight (destinations : List Destination) : Nat :=
  (destinations.map fun destination => destination.weight.value).sum

theorem totalWeight_cons (destination : Destination) (rest : List Destination) :
    totalWeight (destination :: rest) = destination.weight.value + totalWeight rest := by
  simp [totalWeight]

variable {destinations : List Destination}

private theorem totalWeight_pos (nonempty : destinations ≠ []) : 0 < totalWeight destinations := by
  cases destinations with
  | nil => exact absurd rfl nonempty
  | cons destination =>
    have positive := destination.weight.positive
    rw [totalWeight_cons]
    omega

section Loop

variable {position pick : Nat} {destination : Destination} {rest : List Destination}

theorem selectionLoop_here (below : pick < destination.weight.value) :
    selectionLoop position (destination :: rest) pick = .selected position := by
  rw [selectionLoop, if_pos below]

theorem selectionLoop_later (position : Nat) (destination : Destination)
    (rest : List Destination) (left : Nat) :
    selectionLoop position (destination :: rest) (destination.weight.value + left) =
      selectionLoop (position + 1) rest left := by
  have reached : ¬ destination.weight.value + left < destination.weight.value := by omega
  rw [selectionLoop, if_neg reached, checkedSub_add]

theorem pickDestination_here (below : pick < destination.weight.value) :
    pickDestination (destination :: rest) pick = some destination := by
  rw [pickDestination, selectionLoop_here below]
  rfl

/-- Where the counting starts makes no difference to how the loop goes. -/
theorem selectionLoop_shift (start : Nat) (destinations : List Destination) (pick : Nat) :
    selectionLoop start destinations pick =
      match selectionLoop 0 destinations pick with
      | .selected position => .selected (start + position)
      | ended => ended := by
  induction destinations generalizing start pick with
  | nil => rfl
  | cons destination rest ih =>
    rcases Nat.lt_or_ge pick destination.weight.value with below | reached
    · rw [selectionLoop_here below, selectionLoop_here below]
      rfl
    · obtain ⟨left, rfl⟩ := Nat.exists_eq_add_of_le reached
      rw [selectionLoop_later, selectionLoop_later, ih (start + 1), ih (0 + 1)]
      cases selectionLoop 0 rest left with
      | selected position => simp only [SplitEnd.selected.injEq]; omega
      | fellThrough | underflow => rfl

theorem pickDestination_later (destination : Destination) (rest : List Destination) (left : Nat) :
    pickDestination (destination :: rest) (destination.weight.value + left) =
      pickDestination rest left := by
  unfold pickDestination
  rw [selectionLoop_later, selectionLoop_shift]
  cases selectionLoop 0 rest left with
  | selected position =>
    dsimp only
    rw [Nat.zero_add, Nat.add_comm 1, List.getElem?_cons_succ]
  | fellThrough | underflow => rfl

end Loop

theorem selectionLoop_selected (start : Nat) {pick : Nat}
    (inRange : pick < totalWeight destinations) :
    ∃ position : Fin destinations.length,
      selectionLoop start destinations pick = .selected (start + position.val) ∧
        pickDestination destinations pick = some (destinations.get position) := by
  induction destinations generalizing start pick with
  | nil => exact absurd inRange (Nat.not_lt_zero pick)
  | cons destination rest ih =>
    rcases Nat.lt_or_ge pick destination.weight.value with below | reached
    · exact ⟨⟨0, Nat.zero_lt_succ _⟩, selectionLoop_here below, pickDestination_here below⟩
    · obtain ⟨left, rfl⟩ := Nat.exists_eq_add_of_le reached
      rw [totalWeight_cons] at inRange
      obtain ⟨position, ended, taken⟩ := ih (start + 1) (Nat.lt_of_add_lt_add_left inRange)
      refine ⟨position.succ, ?_, ?_⟩
      · rw [selectionLoop_later, ended, Fin.val_succ, Nat.add_assoc, Nat.add_comm 1]
      · rw [pickDestination_later, taken]
        rfl

private theorem count_position (start : Nat) {position : Nat} {chosen : Destination}
    (there : destinations[position]? = some chosen) :
    Nat.count (fun pick => selectionLoop start destinations pick = .selected (start + position))
      (totalWeight destinations) = chosen.weight.value := by
  induction destinations generalizing start position with
  | nil => exact absurd there (by simp)
  | cons destination rest ih =>
    rw [totalWeight_cons, Nat.count_add]
    simp only [selectionLoop_later]
    cases position with
    | zero =>
      obtain rfl : destination = chosen := Option.some.inj there
      -- the first picks stop here, and no later one comes back
      have first : ∀ pick < destination.weight.value,
          selectionLoop start (destination :: rest) pick = .selected (start + 0) :=
        fun pick below => selectionLoop_here below
      have others : ∀ left < totalWeight rest,
          ¬ selectionLoop (start + 1) rest left = .selected (start + 0) := by
        intro left inRange ended
        obtain ⟨later, reached, _⟩ := selectionLoop_selected (start + 1) inRange
        rw [reached] at ended
        have same := SplitEnd.selected.inj ended
        omega
      rw [Nat.count_of_forall first, Nat.count_of_forall_not others, Nat.add_zero]
    | succ position =>
      have first : ∀ pick < destination.weight.value,
          ¬ selectionLoop start (destination :: rest) pick =
            .selected (start + (position + 1)) := by
        intro pick below ended
        rw [selectionLoop_here below] at ended
        have same := SplitEnd.selected.inj ended
        omega
      have shifted : start + (position + 1) = start + 1 + position := by omega
      rw [Nat.count_of_forall_not first, Nat.zero_add]
      simp only [shifted]
      exact ih (start + 1) there

theorem count_pickDestination (chosen : Destination → Bool) (destinations : List Destination) :
    Nat.count (fun pick => (pickDestination destinations pick).any chosen = true)
      (totalWeight destinations) = totalWeight (destinations.filter chosen) := by
  induction destinations with
  | nil => rfl
  | cons destination rest ih =>
    rw [totalWeight_cons, Nat.count_add]
    simp only [pickDestination_later]
    rw [ih, List.filter_cons]
    have first : ∀ pick < destination.weight.value,
        (pickDestination (destination :: rest) pick).any chosen = chosen destination := by
      intro pick below
      rw [pickDestination_here below, Option.any_some]
    cases kind : chosen destination with
    | true =>
      rw [Nat.count_of_forall fun pick below => (first pick below).trans kind, if_pos rfl,
        totalWeight_cons]
    | false =>
      have none : ∀ pick < destination.weight.value,
          ¬ (pickDestination (destination :: rest) pick).any chosen = true := by
        intro pick below
        rw [first pick below, kind]
        exact Bool.false_ne_true
      rw [Nat.count_of_forall_not none, if_neg Bool.false_ne_true, Nat.zero_add]

/-- What a split among destinations should come to. -/
structure SplitExact (destinations : List Destination) : Prop where
  selects : ∀ pick < totalWeight destinations, ∃ position : Fin destinations.length,
    selectionLoop 0 destinations pick = .selected position.val ∧
      pickDestination destinations pick = some (destinations.get position)
  shares : ∀ position : Fin destinations.length,
    Nat.count (fun pick => selectionLoop 0 destinations pick = .selected position.val)
      (totalWeight destinations) = (destinations.get position).weight.value
  upstreams : ∀ name,
    Nat.count (fun pick =>
        (pickDestination destinations pick).any (fun chosen => chosen.upstream = name) = true)
      (totalWeight destinations) =
        totalWeight (destinations.filter fun chosen => chosen.upstream = name)

/-- The upstream is set once, to the destination the pick leads to. -/
def SetsUpstream (ctx : RequestContext) (effects : List FilterEffect)
    (destinations : List Destination) (pick : Nat) (filtered : FilterResult) : Prop :=
  ∃ destination, pickDestination destinations pick = some destination ∧
    filtered.ctx = { ctx with upstreamName := some destination.upstream } ∧
    filtered.effects = effects ++ [.selectUpstream destination.upstream]

/-- For every list with a sum in range the split is exact, and the filter never ends
without an upstream. -/
theorem traffic_split_exact {destinations : List Destination} (nonempty : destinations ≠ [])
    (small : totalWeight destinations < 2 ^ 32) :
    SplitExact destinations ∧
      ∀ ctx effects draw, SetsUpstream ctx effects destinations (draw % totalWeight destinations)
        (selectDestination ctx effects destinations draw) := by
  have positive := totalWeight_pos nonempty
  have selects : ∀ pick < totalWeight destinations, ∃ position : Fin destinations.length,
      selectionLoop 0 destinations pick = .selected position.val ∧
        pickDestination destinations pick = some (destinations.get position) := by
    intro pick inRange
    obtain ⟨position, ended, taken⟩ := selectionLoop_selected 0 inRange
    rw [Nat.zero_add] at ended
    exact ⟨position, ended, taken⟩
  refine ⟨⟨selects, fun position => ?_, fun name => ?_⟩, fun ctx effects draw => ?_⟩
  · have there : destinations[position.val]? = some (destinations.get position) := by simp
    have share := count_position 0 there
    simp only [Nat.zero_add] at share
    exact share
  · exact count_pickDestination _ destinations
  · obtain ⟨position, _, taken⟩ := selects (draw % totalWeight destinations)
      (Nat.mod_lt draw positive)
    have total : (destinations.map fun destination => destination.weight.value).sum % 2 ^ 32 =
        totalWeight destinations := Nat.mod_eq_of_lt small
    refine ⟨destinations.get position, taken, ?_⟩
    unfold selectDestination
    rw [total]
    simp only [if_neg (Nat.ne_of_gt positive), taken, and_self]

def canarySplit : List Destination :=
  [{ upstream := literal "stable", weight := .constant 3 },
    { upstream := literal "canary", weight := .constant 1 },
    { upstream := literal "stable", weight := .constant 2 }]

theorem canarySplit_exact :
    totalWeight canarySplit = 6 ∧
      (List.range 6).map (selectionLoop 0 canarySplit) =
        [.selected 0, .selected 0, .selected 0, .selected 1, .selected 2, .selected 2] ∧
      SplitExact canarySplit :=
  ⟨rfl, by decide, (traffic_split_exact (by decide) (by decide)).1⟩

end Pavis.Proxy
