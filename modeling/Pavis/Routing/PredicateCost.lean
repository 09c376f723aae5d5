/-
The cost estimate of a predicate tree and its unbounded reading.

The costs of the children of a connective are added in sixteen bits before the
sum is cut to a byte.
-/

import Mathlib.Algebra.GroupWithZero.Nat
import Mathlib.Algebra.Order.BigOperators.Group.List
import Pavis.Routing.PredicateNormalForm

namespace Pavis.Routing

open ByteText
open PredicateNode (sumCosts)

open PredicateNode (everywhere_iff everywhere_of_childless)

mutual

def PredicateNode.fullCost : PredicateNode → Nat
  | .constTrue => 0
  | .constFalse => 0
  | .method matcher => matcher.cost.value.toNat
  | .header matcher => matcher.cost.value.toNat
  | .and children => sumFullCosts children
  | .or children => sumFullCosts children
  | .not child => child.fullCost

def PredicateNode.sumFullCosts : List PredicateNode → Nat
  | [] => 0
  | child :: rest => child.fullCost + sumFullCosts rest

end

theorem PredicateNode.sumFullCosts_eq (nodes : List PredicateNode) :
    sumFullCosts nodes = (nodes.map fullCost).sum := by
  induction nodes with
  | nil => rfl
  | cons head rest ih =>
    change head.fullCost + sumFullCosts rest = _
    rw [ih, List.map_cons, List.sum_cons]

def PredicateNode.cappedCost (node : PredicateNode) : Nat := min node.fullCost 255

def PredicateNode.sumCapped (nodes : List PredicateNode) : Nat :=
  (nodes.map cappedCost).sum

theorem PredicateNode.min_sumCapped (nodes : List PredicateNode) :
    min (sumCapped nodes) 255 = min (sumFullCosts nodes) 255 := by
  induction nodes with
  | nil => rfl
  | cons head rest =>
    change min (min head.fullCost 255 + sumCapped rest) 255 =
      min (head.fullCost + sumFullCosts rest) 255
    omega

mutual

/-- The cost in a build that stops when a sum leaves sixteen bits. -/
def PredicateNode.costChecked : PredicateNode → Option MatcherCost
  | .constTrue => some ⟨0⟩
  | .constFalse => some ⟨0⟩
  | .method matcher => some matcher.cost
  | .header matcher => some matcher.cost
  | .and children => (sumCostsChecked 0 children).map MatcherCost.capped
  | .or children => (sumCostsChecked 0 children).map MatcherCost.capped
  | .not child => child.costChecked

def PredicateNode.sumCostsChecked (sum : UInt16) : List PredicateNode → Option UInt16
  | [] => some sum
  | child :: rest =>
    match child.costChecked with
    | none => none
    | some cost =>
      if sum.toNat + cost.value.toNat < 2 ^ 16 then
        sumCostsChecked (sum + cost.value.toUInt16) rest
      else none

end

/-- The children of the node fit into the sixteen-bit sum. -/
def PredicateNode.Narrow (node : PredicateNode) : Prop :=
  sumCapped node.children < 2 ^ 16

instance PredicateNode.narrow_decidable (node : PredicateNode) : Decidable node.Narrow :=
  inferInstanceAs (Decidable (sumCapped node.children < 2 ^ 16))

/-- No intermediate sum overflows, and the estimate is the unbounded cost, cut
to a byte. -/
structure PredicateNode.CostExact (node : PredicateNode) : Prop where
  unchecked : node.costChecked = some node.cost
  capped : node.cost.value.toNat = node.cappedCost

private theorem capped_toNat (sum : UInt16) :
    (MatcherCost.capped sum).value.toNat = min sum.toNat 255 := by
  rw [MatcherCost.capped, UInt8.toNat_ofNat']
  omega

private theorem byte_lt (cost : MatcherCost) : cost.value.toNat < 256 := cost.value.toNat_lt

private theorem sum_toNat (sum : UInt16) (cost : MatcherCost)
    (fits : sum.toNat + cost.value.toNat < 2 ^ 16) :
    (sum + cost.value.toUInt16).toNat = sum.toNat + cost.value.toNat := by
  rw [UInt16.toNat_add, UInt8.toNat_toUInt16, Nat.mod_eq_of_lt fits]

private theorem sumCosts_of_fits {nodes : List PredicateNode}
    (members : ∀ node ∈ nodes, node.CostExact) (sum : UInt16)
    (fits : sum.toNat + PredicateNode.sumCapped nodes < 2 ^ 16) :
    PredicateNode.sumCostsChecked sum nodes = some (sumCosts sum nodes) ∧
      (sumCosts sum nodes).toNat = sum.toNat + PredicateNode.sumCapped nodes := by
  induction nodes generalizing sum with
  | nil => exact ⟨rfl, rfl⟩
  | cons head rest ih =>
    have headExact := members head List.mem_cons_self
    change sum.toNat + (head.cappedCost + PredicateNode.sumCapped rest) < 2 ^ 16 at fits
    rw [← headExact.capped] at fits
    have added := sum_toNat sum head.cost (by omega)
    have later := ih (fun node listed => members node (List.mem_cons_of_mem _ listed))
      (sum + head.cost.value.toUInt16) (by omega)
    constructor
    · simp only [PredicateNode.sumCostsChecked, headExact.unchecked, sumCosts]
      rw [if_pos (by omega)]
      exact later.1
    · change (sumCosts (sum + head.cost.value.toUInt16) rest).toNat =
        sum.toNat + (head.cappedCost + PredicateNode.sumCapped rest)
      rw [later.2, added, headExact.capped]
      omega

private theorem fits_of_sumCostsChecked {nodes : List PredicateNode}
    (members : ∀ node ∈ nodes, ∀ cost, node.costChecked = some cost →
      node.CostExact ∧ node.Everywhere PredicateNode.Narrow) {sum total : UInt16}
    (reached : PredicateNode.sumCostsChecked sum nodes = some total) :
    sum.toNat + PredicateNode.sumCapped nodes < 2 ^ 16 ∧
      ∀ node ∈ nodes, node.CostExact ∧ node.Everywhere PredicateNode.Narrow := by
  induction nodes generalizing sum with
  | nil => exact ⟨sum.toNat_lt, fun node listed => absurd listed List.not_mem_nil⟩
  | cons head rest ih =>
    cases headCost : head.costChecked with
    | none => simp [PredicateNode.sumCostsChecked, headCost] at reached
    | some cost =>
      simp only [PredicateNode.sumCostsChecked, headCost] at reached
      by_cases fits : sum.toNat + cost.value.toNat < 2 ^ 16
      · rw [if_pos fits] at reached
        have headKnown := members head List.mem_cons_self cost headCost
        have later := ih (fun node listed => members node (List.mem_cons_of_mem _ listed))
          reached
        have same : head.cost = cost :=
          Option.some.inj (headKnown.1.unchecked.symm.trans headCost)
        have added := sum_toNat sum cost fits
        have capped := headKnown.1.capped
        rw [same] at capped
        constructor
        · change sum.toNat + (head.cappedCost + PredicateNode.sumCapped rest) < 2 ^ 16
          omega
        · exact List.forall_mem_cons.mpr ⟨headKnown, later.2⟩
      · rw [if_neg fits] at reached
        cases reached

namespace Junction

@[simp] theorem build_cost (junction : Junction) (nodes : List PredicateNode) :
    (junction.build nodes).cost = MatcherCost.capped (sumCosts 0 nodes) := by
  cases junction <;> rfl

@[simp] theorem build_costChecked (junction : Junction) (nodes : List PredicateNode) :
    (junction.build nodes).costChecked =
      (PredicateNode.sumCostsChecked 0 nodes).map MatcherCost.capped := by
  cases junction <;> rfl

@[simp] theorem build_fullCost (junction : Junction) (nodes : List PredicateNode) :
    (junction.build nodes).fullCost = PredicateNode.sumFullCosts nodes := by
  cases junction <;> rfl

theorem build_costExact (junction : Junction) {nodes : List PredicateNode}
    (members : ∀ node ∈ nodes, node.CostExact)
    (narrow : PredicateNode.sumCapped nodes < 2 ^ 16) : (junction.build nodes).CostExact := by
  obtain ⟨checked, sum⟩ := sumCosts_of_fits members 0 (by simpa using narrow)
  rw [UInt16.toNat_zero, Nat.zero_add] at sum
  constructor
  · rw [build_costChecked, build_cost, checked]
    rfl
  · rw [build_cost, capped_toNat, sum, PredicateNode.min_sumCapped, PredicateNode.cappedCost,
      build_fullCost]

private theorem build_costChecked_iff (junction : Junction) {nodes : List PredicateNode}
    (members : ∀ node ∈ nodes, ∀ cost, node.costChecked = some cost →
      node.CostExact ∧ node.Everywhere PredicateNode.Narrow) {cost : MatcherCost}
    (reached : (junction.build nodes).costChecked = some cost) :
    (junction.build nodes).CostExact ∧
      (junction.build nodes).Everywhere PredicateNode.Narrow := by
  rw [build_costChecked, Option.map_eq_some_iff] at reached
  obtain ⟨total, reached, _⟩ := reached
  obtain ⟨narrow, known⟩ := fits_of_sumCostsChecked members reached
  rw [UInt16.toNat_zero, Nat.zero_add] at narrow
  refine ⟨junction.build_costExact (fun node listed => (known node listed).1) narrow, ?_⟩
  rw [everywhere_iff, PredicateNode.Narrow, build_children]
  exact ⟨narrow, fun node listed => (known node listed).2⟩

end Junction

private theorem leaf_narrow {node : PredicateNode} (childless : node.children = []) :
    node.Everywhere PredicateNode.Narrow := by
  refine everywhere_of_childless childless (?_ : node.Narrow)
  rw [PredicateNode.Narrow, childless]
  decide

private theorem negation_narrow (child : PredicateNode) :
    (PredicateNode.not child).Everywhere PredicateNode.Narrow ↔
      child.Everywhere PredicateNode.Narrow := by
  have single : (PredicateNode.not child).Narrow := by
    change child.cappedCost + 0 < 2 ^ 16
    unfold PredicateNode.cappedCost
    omega
  rw [everywhere_iff]
  simp [PredicateNode.children, single]

private theorem leaf_costExact {node : PredicateNode} (checked : node.costChecked = some node.cost)
    (full : node.fullCost = node.cost.value.toNat) : node.CostExact := by
  refine ⟨checked, ?_⟩
  have byte := byte_lt node.cost
  unfold PredicateNode.cappedCost
  omega

theorem PredicateNode.costExact_of_narrow {tree : PredicateNode}
    (narrow : tree.Everywhere Narrow) : tree.CostExact := by
  induction tree with
  | constTrue | constFalse | method | header => exact leaf_costExact rfl rfl
  | and children ih =>
    obtain ⟨here, below⟩ := everywhere_iff.mp narrow
    exact Junction.build_costExact .and (fun node listed => ih node listed (below node listed))
      here
  | or children ih =>
    obtain ⟨here, below⟩ := everywhere_iff.mp narrow
    exact Junction.build_costExact .or (fun node listed => ih node listed (below node listed))
      here
  | not child ih =>
    have exact' := ih ((negation_narrow child).mp narrow)
    exact ⟨exact'.unchecked, exact'.capped⟩

theorem PredicateNode.narrow_of_costChecked {tree : PredicateNode} {cost : MatcherCost}
    (reached : tree.costChecked = some cost) : tree.CostExact ∧ tree.Everywhere Narrow := by
  induction tree generalizing cost with
  | constTrue | constFalse | method | header => exact ⟨leaf_costExact rfl rfl, leaf_narrow rfl⟩
  | and children ih =>
    exact Junction.build_costChecked_iff .and (fun node listed _ => ih node listed) reached
  | or children ih =>
    exact Junction.build_costChecked_iff .or (fun node listed _ => ih node listed) reached
  | not child ih =>
    obtain ⟨known, below⟩ := ih reached
    exact ⟨⟨known.unchecked, known.capped⟩, (negation_narrow child).mpr below⟩

private theorem sumCapped_insert (before after : List PredicateNode) (child : PredicateNode) :
    PredicateNode.sumCapped (before ++ child :: after) =
      PredicateNode.sumCapped (before ++ after) + child.cappedCost := by
  simp only [PredicateNode.sumCapped, List.map_append, List.map_cons, List.sum_append,
    List.sum_cons]
  omega

private theorem narrow_without {junction : Junction} {before after : List PredicateNode}
    {child : PredicateNode}
    (narrow : (junction.build (before ++ child :: after)).Everywhere PredicateNode.Narrow) :
    (junction.build (before ++ after)).Everywhere PredicateNode.Narrow := by
  rw [everywhere_iff, PredicateNode.Narrow, Junction.build_children, sumCapped_insert] at narrow
  rw [everywhere_iff, PredicateNode.Narrow, Junction.build_children]
  refine ⟨by omega, fun node listed => narrow.2 node ?_⟩
  rcases List.mem_append.mp listed with early | late
  · exact List.mem_append.mpr (Or.inl early)
  · exact List.mem_append.mpr (Or.inr (List.mem_cons_of_mem _ late))

/-- The estimate is exact and no sum overflows just when every node is narrow;
then a node without one of its children is no dearer. -/
theorem cost_exact_iff_narrow (tree : PredicateNode) :
    (tree.CostExact ↔ tree.Everywhere PredicateNode.Narrow) ∧
      (tree.Everywhere PredicateNode.Narrow →
        ∀ (junction : Junction) (before after : List PredicateNode) (child : PredicateNode),
          tree = junction.build (before ++ child :: after) →
            (junction.build (before ++ after)).costKey ≤ tree.costKey) := by
  constructor
  · constructor
    · intro exactly
      exact (PredicateNode.narrow_of_costChecked exactly.unchecked).2
    · exact PredicateNode.costExact_of_narrow
  · rintro narrow junction before after child rfl
    have larger := (PredicateNode.costExact_of_narrow narrow).capped
    have smaller := (PredicateNode.costExact_of_narrow (narrow_without narrow)).capped
    unfold PredicateNode.costKey
    rw [larger, smaller, PredicateNode.cappedCost, PredicateNode.cappedCost,
      Junction.build_fullCost, Junction.build_fullCost, ← PredicateNode.min_sumCapped,
      ← PredicateNode.min_sumCapped, sumCapped_insert]
    omega

private theorem sumCosts_replicate (count : Nat) (node : PredicateNode) (sum : UInt16) :
    sumCosts sum (List.replicate count node) =
      sum + UInt16.ofNat count * node.cost.value.toUInt16 := by
  induction count generalizing sum with
  | zero => simp [sumCosts]
  | succ count ih =>
    rw [List.replicate_succ]
    change sumCosts (sum + node.cost.value.toUInt16) _ = _
    rw [ih, UInt16.ofNat_add, UInt16.add_mul, UInt16.add_assoc]
    simp [UInt16.add_comm]

def regexWall (count : Nat) : PredicateNode :=
  .and (List.replicate count (.header (.regex (literal "x") (literal "v.*"))))

private theorem regexWall_costKey (count : Nat) :
    (regexWall count).costKey = min (count * 10 % 2 ^ 16) 255 := by
  rw [PredicateNode.costKey, regexWall, PredicateNode.cost, sumCosts_replicate, capped_toNat,
    UInt16.zero_add, UInt16.toNat_mul, UInt16.toNat_ofNat']
  change min (count % 2 ^ 16 * 10 % 2 ^ 16) 255 = _
  rw [Nat.mod_mul_mod]

private theorem regexWall_fullCost (count : Nat) : (regexWall count).fullCost = count * 10 := by
  rw [regexWall, PredicateNode.fullCost, PredicateNode.sumFullCosts_eq, List.map_replicate,
    List.sum_replicate]
  rfl

/-- With 6554 children the sum wraps and the node is cheaper than with 6553. -/
theorem regex_wall_wraps :
    ¬(regexWall 6554).CostExact ∧ (regexWall 6554).costKey = 4 ∧
      (regexWall 6553).costKey = 255 := by
  refine ⟨?_, regexWall_costKey 6554, regexWall_costKey 6553⟩
  intro exactly
  have capped := exactly.capped
  change (regexWall 6554).costKey = _ at capped
  rw [regexWall_costKey, PredicateNode.cappedCost, regexWall_fullCost] at capped
  omega

theorem two_regexes_exact :
    (regexWall 2).CostExact ∧ (regexWall 1).costKey ≤ (regexWall 2).costKey := by
  have narrow : (regexWall 2).Everywhere PredicateNode.Narrow := by
    rw [everywhere_iff]
    refine ⟨by decide, fun child listed => leaf_narrow ?_⟩
    rw [List.eq_of_mem_replicate listed]
    rfl
  exact ⟨(cost_exact_iff_narrow _).1.mpr narrow,
    (cost_exact_iff_narrow _).2 narrow .and [] _ _ rfl⟩

end Pavis.Routing
