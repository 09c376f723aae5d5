/-
Weighted round robin over one turn.

A call reduces the counter to thirty-two bits, then to the total weight, and looks
the result up in the running sums.
-/

import Pavis.Library.CyclicCount
import Pavis.Upstream.ClusterRuns

namespace Pavis.Upstream

open Config CyclicCount

section Search

variable {weights : List Nat} {pick : Nat}

/-- The test of the search at a position. Behind the list it fails. -/
def AtMost (weights : List Nat) (pick position : Nat) : Prop :=
  weights[position]?.any (· ≤ pick) = true

/-- What the halving loop keeps: it is at the start or at a position that passes, and
none passes behind the part that is left. -/
structure Narrowed (weights : List Nat) (pick base size : Nat) : Prop where
  left : 0 < size
  passes : base = 0 ∨ AtMost weights pick base
  above : ∀ position, base + size ≤ position → ¬ AtMost weights pick position

def Descending (weights : List Nat) (pick : Nat) : Prop :=
  ∀ position later, position ≤ later → AtMost weights pick later → AtMost weights pick position

section

variable (descending : Descending weights pick)

include descending

theorem Narrowed.halved {base size : Nat} (narrowed : Narrowed weights pick base size)
    (several : 1 < size) :
    Narrowed weights pick
      (if weights[base + size / 2]?.any (· ≤ pick) then base + size / 2 else base)
      (size - size / 2) := by
  split
  · rename_i passes
    refine ⟨by omega, .inr passes, fun position behind => ?_⟩
    exact narrowed.above position (by omega)
  · rename_i fails
    refine ⟨by omega, narrowed.passes, fun position behind passes => fails ?_⟩
    exact descending (base + size / 2) position (by omega) passes

private theorem searchBase_narrowed (rounds : Nat) {base size : Nat}
    (narrowed : Narrowed weights pick base size) (enough : size ≤ rounds + 1) :
    Narrowed weights pick (searchBase weights pick rounds base size) 1 := by
  induction rounds generalizing base size with
  | zero =>
    have single : size = 1 := by
      have left := narrowed.left
      omega
    rw [single] at narrowed
    exact narrowed
  | succ rounds ih =>
    unfold searchBase
    split
    · have single : size = 1 := by
        have left := narrowed.left
        omega
      rw [single] at narrowed
      exact narrowed
    · exact ih (narrowed.halved descending (by omega)) (by omega)

private theorem binarySearch_spec (position : Nat) :
    position < binarySearch weights pick ↔ AtMost weights pick position := by
  unfold binarySearch
  split
  · rename_i empty
    have none : weights = [] := List.length_eq_zero_iff.mp empty
    simp [AtMost, none]
  · rename_i nonempty
    have start : Narrowed weights pick 0 weights.length := by
      refine ⟨Nat.pos_of_ne_zero nonempty, .inl rfl, fun position behind => ?_⟩
      simp [AtMost, List.getElem?_eq_none (by omega : weights.length ≤ position)]
    have found := searchBase_narrowed descending weights.length start (by omega)
    generalize searchBase weights pick weights.length 0 weights.length = base at found
    simp only
    split
    · rename_i passes
      constructor
      · intro below
        exact descending position base (by omega) passes
      · intro passing
        refine Nat.lt_of_not_le fun behind => ?_
        exact found.above position (by omega) passing
    · rename_i fails
      have first : base = 0 := found.passes.resolve_right fails
      constructor
      · intro below
        omega
      · intro passing
        exact absurd (descending base position (by omega) passing) fails

theorem findIndex_eq_iff (bounded : ¬ AtMost weights pick (weights.length - 1)) {index : Nat} :
    findIndex weights pick = index ↔
      (∀ position < index, AtMost weights pick position) ∧ ¬ AtMost weights pick index := by
  have notPast : binarySearch weights pick ≤ weights.length - 1 :=
    Nat.le_of_not_lt fun past => bounded ((binarySearch_spec descending _).mp past)
  have whole : findIndex weights pick = binarySearch weights pick := Nat.min_eq_left notPast
  rw [whole]
  constructor
  · rintro rfl
    refine ⟨fun position below => (binarySearch_spec descending position).mp below, ?_⟩
    exact fun passing => Nat.lt_irrefl _ ((binarySearch_spec descending _).mpr passing)
  · rintro ⟨before, fails⟩
    have notAbove : ¬ index < binarySearch weights pick :=
      fun above => fails ((binarySearch_spec descending index).mp above)
    rcases Nat.lt_or_ge (binarySearch weights pick) index with below | above
    · have passing := before _ below
      exact absurd ((binarySearch_spec descending _).mpr passing) (Nat.lt_irrefl _)
    · omega

end

end Search

def cut (endpoints : List Endpoint) (index : Nat) : Nat := weightSum (endpoints.take index)

section Cuts

variable {endpoints : List Endpoint}

theorem weightSum_pos (nonempty : endpoints ≠ []) : 0 < weightSum endpoints := by
  obtain ⟨head, rest, rfl⟩ := List.exists_cons_of_ne_nil nonempty
  have weight := head.weight.positive
  rw [weightSum_cons]
  omega

theorem cut_length : cut endpoints endpoints.length = weightSum endpoints := by
  rw [cut, List.take_length]

theorem cut_succ {index : Nat} (listed : index < endpoints.length) :
    cut endpoints (index + 1) =
      cut endpoints index + (endpoints.get ⟨index, listed⟩).weight.value := by
  unfold cut weightSum
  rw [List.take_add_one, List.getElem?_eq_getElem listed, List.map_append, List.sum_append]
  rfl

theorem cut_widths : ∀ index < endpoints.length,
    cut endpoints index < cut endpoints (index + 1) := by
  intro index listed
  rw [cut_succ listed]
  have positive := (endpoints.get ⟨index, listed⟩).weight.positive
  omega

theorem atMost_prefixSums_iff {pick position : Nat} :
    AtMost (prefixSums endpoints) pick position ↔
      position < endpoints.length ∧ cut endpoints (position + 1) ≤ pick := by
  unfold AtMost prefixSums cut
  by_cases listed : position < endpoints.length <;> simp [listed]

private theorem prefixSums_descending (pick : Nat) : Descending (prefixSums endpoints) pick := by
  intro position later ordered passes
  rw [atMost_prefixSums_iff] at passes ⊢
  have below : cut endpoints (position + 1) ≤ cut endpoints (later + 1) :=
    cut_mono cut_widths (Nat.succ_le_succ ordered) passes.1
  exact ⟨by omega, by omega⟩

private theorem findIndex_prefixSums_iff {pick index : Nat} (below : pick < weightSum endpoints)
    (listed : index < endpoints.length) :
    findIndex (prefixSums endpoints) pick = index ↔
      cut endpoints index ≤ pick ∧ pick < cut endpoints (index + 1) := by
  have count : (prefixSums endpoints).length = endpoints.length := by simp [prefixSums]
  have bounded : ¬ AtMost (prefixSums endpoints) pick ((prefixSums endpoints).length - 1) := by
    rw [atMost_prefixSums_iff, count, Nat.sub_add_cancel (by omega), cut_length]
    omega
  rw [findIndex_eq_iff (prefixSums_descending pick) bounded]
  simp only [atMost_prefixSums_iff]
  constructor
  · rintro ⟨before, fails⟩
    refine ⟨?_, by omega⟩
    cases index with
    | zero => exact Nat.zero_le _
    | succ index => exact (before index (Nat.lt_succ_self index)).2
  · rintro ⟨lower, upper⟩
    refine ⟨fun position earlier => ⟨by omega, ?_⟩, by omega⟩
    have ordered : cut endpoints (position + 1) ≤ cut endpoints index :=
      cut_mono cut_widths earlier (Nat.le_of_lt listed)
    omega

end Cuts

namespace Cluster

def selectAll (cluster : Cluster) : List (Nat × Readings) → List CallResult
  | [] => []
  | call :: rest =>
    let result := cluster.selectEndpoint call.1 call.2
    result :: selectAll result.cluster rest

def chosenIndex (cluster : Cluster) (call : Nat × Readings) : Nat :=
  let cleared := (cluster.refreshExpiredEjections call.2).1
  (selectIndex cleared.config.balancer cleared.state cleared.rrCounter call.1).1

def chosenIndexes (cluster : Cluster) : List (Nat × Readings) → List Nat
  | [] => []
  | call :: rest =>
    cluster.chosenIndex call ::
      chosenIndexes (cluster.selectEndpoint call.1 call.2).cluster rest

private theorem refresh_quiet {cluster : Cluster} {readings : Readings}
    (quiet : (cluster.refreshExpiredEjections readings).2 = false) :
    (cluster.refreshExpiredEjections readings).1 =
      { cluster with health := (cluster.health.clearExpiredEjections readings.first).1 } := by
  unfold refreshExpiredEjections settle at quiet ⊢
  split at quiet
  · cases quiet
  · rename_i unchanged
    rw [if_neg unchanged]

end Cluster

section Turn

variable {endpoints : List Endpoint}

/-- The counter as the remainders are taken of it. -/
def pickAt (endpoints : List Endpoint) (counter step : Nat) : Nat :=
  findIndex (prefixSums endpoints) ((counter + step) % 2 ^ 32 % weightSum endpoints)

theorem selectIndex_roundRobin (nonempty : endpoints ≠ []) (small : weightSum endpoints < 2 ^ 32)
    (counter draw : Nat) :
    selectIndex .roundRobin (buildStateParts endpoints) counter draw =
      (pickAt endpoints counter 0, (counter + 1) % 2 ^ 64) := by
  obtain ⟨sums, total⟩ := buildStateParts_weighed small
  have positive : weightSum endpoints ≠ 0 := Nat.ne_of_gt (weightSum_pos nonempty)
  unfold selectIndex
  rw [if_neg (by simp [nonempty, total, positive]), sums, total]
  rfl

private theorem selectEndpoint_quiet {cluster : Cluster} {call : Nat × Readings}
    (balanced : cluster.config.balancer = .roundRobin)
    (published : cluster.state = buildStateParts endpoints) (nonempty : endpoints ≠ [])
    (small : weightSum endpoints < 2 ^ 32)
    (quiet : (cluster.selectEndpoint call.1 call.2).refreshed = false) :
    cluster.chosenIndex call = pickAt endpoints cluster.rrCounter 0 ∧
      (cluster.selectEndpoint call.1 call.2).selected =
        endpoints[pickAt endpoints cluster.rrCounter 0]? ∧
      (cluster.selectEndpoint call.1 call.2).cluster.config = cluster.config ∧
      (cluster.selectEndpoint call.1 call.2).cluster.state = cluster.state ∧
      (cluster.selectEndpoint call.1 call.2).cluster.rrCounter =
        (cluster.rrCounter + 1) % 2 ^ 64 := by
  have cleared := Cluster.refresh_quiet quiet
  have chosen := selectIndex_roundRobin nonempty small cluster.rrCounter call.1
  unfold Cluster.chosenIndex Cluster.selectEndpoint Cluster.pickEndpoint
  simp only [cleared, balanced, published, chosen, buildStateParts_endpoints, if_neg nonempty,
    and_self]

private theorem pickAt_succ (counter step : Nat) :
    pickAt endpoints ((counter + 1) % 2 ^ 64) step = pickAt endpoints counter (step + 1) := by
  have low : ((counter + 1) % 2 ^ 64 + step) % 2 ^ 32 = (counter + (step + 1)) % 2 ^ 32 := by
    omega
  rw [pickAt, pickAt, low]

private theorem chosenIndexes_eq (nonempty : endpoints ≠ []) (small : weightSum endpoints < 2 ^ 32)
    (calls : List (Nat × Readings)) {cluster : Cluster}
    (balanced : cluster.config.balancer = .roundRobin)
    (published : cluster.state = buildStateParts endpoints)
    (quiet : ∀ result ∈ cluster.selectAll calls, result.refreshed = false) :
    cluster.chosenIndexes calls =
        (List.range calls.length).map (pickAt endpoints cluster.rrCounter) ∧
      (cluster.selectAll calls).map CallResult.selected =
        (cluster.chosenIndexes calls).map fun index => endpoints[index]? := by
  induction calls generalizing cluster with
  | nil => exact ⟨rfl, rfl⟩
  | cons call rest ih =>
    obtain ⟨chosen, selected, config, state, counted⟩ := selectEndpoint_quiet balanced published
      nonempty small (quiet _ List.mem_cons_self)
    obtain ⟨later, laterSelected⟩ := ih (by rw [config, balanced]) (by rw [state, published])
      fun result member => quiet result (List.mem_cons_of_mem _ member)
    rw [counted] at later
    constructor
    · rw [Cluster.chosenIndexes, later, chosen, List.length_cons, List.range_succ_eq_map,
        List.map_cons, List.map_map]
      congr 1
      exact List.map_congr_left fun step _ => pickAt_succ cluster.rrCounter step
    · rw [Cluster.selectAll, Cluster.chosenIndexes, List.map_cons, List.map_cons,
        laterSelected, chosen, selected]

/-! ### One turn -/

def firstWeight (endpoints : List Endpoint) : Nat :=
  (endpoints.head?.map fun endpoint => endpoint.weight.value).getD 0

def lastWeight (endpoints : List Endpoint) : Nat :=
  (endpoints.getLast?.map fun endpoint => endpoint.weight.value).getD 0

/-- The calls of a turn that come after the low bits of the counter have wrapped. -/
def beyond (endpoints : List Endpoint) (counter : Nat) : Nat :=
  counter % 2 ^ 32 + weightSum endpoints - 2 ^ 32

/-- By how much the remainders fall back when the low bits wrap. -/
def setback (endpoints : List Endpoint) : Nat := 2 ^ 32 % weightSum endpoints

/-- The turn does not wrap, the wrap is at a multiple of the weight, or what it takes
and gives falls to the first endpoint alone or to the last. -/
def TurnFits (endpoints : List Endpoint) (counter : Nat) : Prop :=
  beyond endpoints counter = 0 ∨ setback endpoints = 0 ∨
    setback endpoints + beyond endpoints counter ≤ firstWeight endpoints ∨
    2 * weightSum endpoints ≤
      setback endpoints + beyond endpoints counter + lastWeight endpoints

private theorem cut_one (nonempty : endpoints ≠ []) : cut endpoints 1 = firstWeight endpoints := by
  obtain ⟨head, rest, rfl⟩ := List.exists_cons_of_ne_nil nonempty
  simp [cut, firstWeight, weightSum]

private theorem cut_last (nonempty : endpoints ≠ []) :
    cut endpoints (endpoints.length - 1) + lastWeight endpoints = weightSum endpoints := by
  have positive := List.length_pos_of_ne_nil nonempty
  have total := cut_succ (by omega : endpoints.length - 1 < endpoints.length)
  rw [Nat.sub_add_cancel positive, cut_length] at total
  rw [total, lastWeight, List.getLast?_eq_getElem?, List.getElem?_eq_getElem (by omega)]
  rfl

theorem count_chosen (nonempty : endpoints ≠ []) (counter turn : Nat) {index : Nat}
    (listed : index < endpoints.length) :
    ((List.range turn).map (pickAt endpoints counter)).count index =
      Nat.count (fun step => InBucket (weightSum endpoints) (cut endpoints index)
        (cut endpoints (index + 1)) ((counter % 2 ^ 32 + step) % 2 ^ 32)) turn := by
  rw [List.count, List.countP_map, Nat.count]
  apply List.countP_congr
  intro step _
  have below := Nat.mod_lt ((counter + step) % 2 ^ 32) (weightSum_pos nonempty)
  rw [Function.comp_apply, beq_iff_eq, decide_eq_true_iff, pickAt,
    findIndex_prefixSums_iff below listed, InBucket, Nat.mod_add_mod]

/-- Over a turn without a refresh, each call returns the endpoint at its index, and every
index comes as often as its endpoint weighs exactly if the turn fits the counter. -/
theorem roundRobin_exact_iff {cluster : Cluster} (balanced : cluster.config.balancer = .roundRobin)
    (published : cluster.state = buildStateParts endpoints) (nonempty : endpoints ≠ [])
    (small : weightSum endpoints < 2 ^ 32) {calls : List (Nat × Readings)}
    (turn : calls.length = weightSum endpoints)
    (quiet : ∀ result ∈ cluster.selectAll calls, result.refreshed = false) :
    (cluster.selectAll calls).map CallResult.selected =
        (cluster.chosenIndexes calls).map (fun index => endpoints[index]?) ∧
      ((∀ index : Fin endpoints.length,
          (cluster.chosenIndexes calls).count index.val = (endpoints.get index).weight.value) ↔
        TurnFits endpoints cluster.rrCounter) := by
  obtain ⟨chosen, selected⟩ := chosenIndexes_eq nonempty small calls balanced published quiet
  refine ⟨selected, ?_⟩
  have widths : ∀ index < endpoints.length,
      cut endpoints index < cut endpoints (index + 1) := cut_widths
  have kept := buckets_kept_iff widths rfl (List.length_pos_of_ne_nil nonempty)
    (Nat.mod_lt cluster.rrCounter (by decide : 0 < 2 ^ 32)) (by rw [cut_length]; omega) rfl rfl
  rw [cut_length, cut_one nonempty] at kept
  have fits : TurnFits endpoints cluster.rrCounter ↔
      cluster.rrCounter % 2 ^ 32 + weightSum endpoints - 2 ^ 32 = 0 ∨
        2 ^ 32 % weightSum endpoints = 0 ∨
        2 ^ 32 % weightSum endpoints +
          (cluster.rrCounter % 2 ^ 32 + weightSum endpoints - 2 ^ 32) ≤ firstWeight endpoints ∨
        weightSum endpoints + cut endpoints (endpoints.length - 1) ≤
          2 ^ 32 % weightSum endpoints +
            (cluster.rrCounter % 2 ^ 32 + weightSum endpoints - 2 ^ 32) := by
    have last := cut_last nonempty
    unfold TurnFits beyond setback
    omega
  rw [fits, ← kept, chosen, turn]
  constructor
  · intro all index listed
    rw [← count_chosen nonempty cluster.rrCounter (weightSum endpoints) listed,
      all ⟨index, listed⟩, cut_succ listed, Nat.add_sub_cancel_left]
  · intro all index
    rw [count_chosen nonempty cluster.rrCounter (weightSum endpoints) index.isLt,
      all index.val index.isLt, cut_succ index.isLt, Nat.add_sub_cancel_left]

end Turn

def pairEndpoints : List Endpoint :=
  [{ address := .ip (.v4 127 0 0 1) (.constant 8080), weight := .constant 2 },
    { address := .ip (.v4 127 0 0 1) (.constant 8081), weight := .constant 1 }]

def pairCluster (counter : Nat) : Cluster :=
  { Cluster.new { ejectingUpstream with endpoints := pairEndpoints } 0 with rrCounter := counter }

def threeCalls : List (Nat × Readings) := List.replicate 3 (0, .at 5)

theorem pairCluster_turn :
    TurnFits pairEndpoints 7 ∧ (pairCluster 7).chosenIndexes threeCalls = [0, 1, 0] ∧
      ∀ index : Fin pairEndpoints.length,
        ((pairCluster 7).chosenIndexes threeCalls).count index.val =
          (pairEndpoints.get index).weight.value := by
  have fits : TurnFits pairEndpoints 7 := .inl (by decide)
  refine ⟨fits, by decide +kernel, ?_⟩
  exact (roundRobin_exact_iff rfl rfl (by decide) (by decide) rfl (by decide +kernel)).2.mpr fits

/-- When the low bits of the counter wrap after the first call, the first endpoint is
taken three times and the second one not at all. -/
theorem pairCluster_wrap_skips :
    weightSum pairEndpoints = 3 ∧
      (pairCluster (2 ^ 32 - 1)).state.endpoints = pairEndpoints ∧
      (∀ result ∈ (pairCluster (2 ^ 32 - 1)).selectAll threeCalls, result.refreshed = false) ∧
      ((pairCluster (2 ^ 32 - 1)).selectAll threeCalls).map CallResult.selected =
        List.replicate 3 pairEndpoints.head? := by
  decide +kernel

end Pavis.Upstream
