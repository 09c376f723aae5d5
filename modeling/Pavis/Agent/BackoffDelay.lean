/-
How long the agent waits after a failed fetch.

The delay is computed once more in the widths of the source, with a result only where
every operation has one.
-/

import Mathlib.Algebra.Group.Int.Defs
import Pavis.Agent.Fsm
import Pavis.Library.WordArith

namespace Pavis.Agent

open WordArith
open Duration (fromMillis asMillis)

def asI128 (value : Nat) : Int :=
  if value < 2 ^ 127 then value else (value : Int) - 2 ^ 128

def checkedI128 (value : Int) : Option Int :=
  if -2 ^ 127 ≤ value ∧ value < 2 ^ 127 then some value else none

def jitteredChecked (capped : Duration) (jitterRange draw : Nat) : Option Duration := do
  let doubled ← checked (2 ^ 128) (2 * jitterRange)
  let width ← checked (2 ^ 128) (doubled + 1)
  let signed ← checkedI128 (asI128 (draw % width) - asI128 jitterRange)
  if 0 ≤ signed then
    checked (Duration.maximum + 1) (capped + fromMillis (signed.toNat % 2 ^ 64))
  else
    let back ← checkedI128 (-signed)
    checkedSub capped (fromMillis (back.toNat % 2 ^ 64))

def backoffDelayChecked (attempt draw : Nat) : Option Duration := do
  let shift := min attempt 10
  let factor := if shift < 32 then 2 ^ shift % 2 ^ 32 else u32Max
  let exp := Duration.saturatingMul backoffBase factor
  let capped := if exp > backoffCap then backoffCap else exp
  let scaled ← checked (2 ^ 128) (asMillis capped * backoffJitterPct)
  let jitterRange := scaled / 100
  if jitterRange = 0 then some capped else jitteredChecked capped jitterRange draw

def cappedMillis (attempt : Nat) : Nat := min 5000 (250 * 2 ^ attempt)

private theorem cappedMillis_min (attempt : Nat) :
    cappedMillis (min attempt 10) = cappedMillis attempt := by
  unfold cappedMillis
  rcases Nat.le_total attempt 10 with small | large
  · rw [Nat.min_eq_left small]
  · have power : 2 ^ 10 ≤ 2 ^ attempt := Nat.pow_le_pow_right (by decide) large
    rw [Nat.min_eq_right large]
    omega

theorem cappedMillis_bounds (attempt : Nat) :
    250 ≤ cappedMillis attempt ∧ cappedMillis attempt ≤ 5000 := by
  have power : 1 ≤ 2 ^ attempt := Nat.one_le_two_pow
  unfold cappedMillis
  omega

theorem capped_eq (attempt : Nat) :
    (if Duration.saturatingMul backoffBase (2 ^ min attempt 10) > backoffCap then backoffCap
      else Duration.saturatingMul backoffBase (2 ^ min attempt 10)) =
    fromMillis (cappedMillis attempt) := by
  have power : 2 ^ min attempt 10 ≤ 2 ^ 10 :=
    Nat.pow_le_pow_right (by decide) (Nat.min_le_right attempt 10)
  have scaled : ∀ factor : Nat, factor ≤ 2 ^ 10 →
      (if min (250 * 1000000 * factor) ((2 ^ 64 - 1) * 1000000000 + 999999999) > 5000 * 1000000
        then 5000 * 1000000
        else min (250 * 1000000 * factor) ((2 ^ 64 - 1) * 1000000000 + 999999999)) =
      min 5000 (250 * factor) * 1000000 := by
    intro factor small
    split <;> omega
  rw [← cappedMillis_min]
  exact scaled _ power

theorem asMillis_fromMillis (millis : Nat) : asMillis (fromMillis millis) = millis :=
  Nat.mul_div_cancel millis (by decide)

private theorem asI128_small {value : Nat} (small : value < 2 ^ 127) : asI128 value = value :=
  if_pos small

private theorem checkedI128_small {value : Int} (low : -2 ^ 127 ≤ value) (high : value < 2 ^ 127) :
    checkedI128 value = some value :=
  if_pos ⟨low, high⟩

def jitterMillis (attempt : Nat) : Nat := cappedMillis attempt / 10

def delayMillis (attempt draw : Nat) : Nat :=
  cappedMillis attempt - jitterMillis attempt + draw % (2 * jitterMillis attempt + 1)

theorem jitterRange_eq (attempt : Nat) :
    asMillis (fromMillis (cappedMillis attempt)) * backoffJitterPct / 100 =
      jitterMillis attempt := by
  rw [asMillis_fromMillis]
  exact Nat.mul_div_mul_right (cappedMillis attempt) 10 (by decide : 0 < 10)

theorem fromMillis_spread (offset : Nat) {middle jitter : Nat} (inside : jitter ≤ middle) :
    (jitter ≤ offset → fromMillis middle + fromMillis (offset - jitter) =
      fromMillis (middle - jitter + offset)) ∧
    (offset < jitter → fromMillis middle - fromMillis (jitter - offset) =
      fromMillis (middle - jitter + offset)) := by
  unfold fromMillis
  constructor
  · intro up
    have total : middle - jitter + offset = middle + (offset - jitter) := by omega
    rw [total, Nat.add_mul]
  · intro down
    have total : middle - jitter + offset = middle - (jitter - offset) := by omega
    rw [total]
    exact (Nat.sub_mul _ _ _).symm

theorem jitterMillis_bounds (attempt : Nat) :
    25 ≤ jitterMillis attempt ∧ jitterMillis attempt ≤ 500 ∧
      10 * jitterMillis attempt ≤ cappedMillis attempt := by
  have bounds := cappedMillis_bounds attempt
  unfold jitterMillis
  omega

theorem backoffDelay_eq (attempt draw : Nat) :
    backoffDelay attempt draw = fromMillis (delayMillis attempt draw) := by
  have bounds := jitterMillis_bounds attempt
  have inside : jitterMillis attempt ≤ cappedMillis attempt := by omega
  obtain ⟨up, down⟩ := fromMillis_spread (draw % (2 * jitterMillis attempt + 1)) inside
  unfold backoffDelay
  simp only [capped_eq, jitterRange_eq]
  rw [if_neg (by omega : ¬ jitterMillis attempt = 0)]
  split
  · rename_i reached
    exact up reached
  · rename_i short
    exact down (Nat.lt_of_not_le short)

private theorem factor_eq (attempt : Nat) :
    (if min attempt 10 < 32 then 2 ^ min attempt 10 % 2 ^ 32 else u32Max) =
      2 ^ min attempt 10 := by
  have shift : min attempt 10 < 32 := by omega
  rw [if_pos shift]
  exact Nat.mod_eq_of_lt (Nat.pow_lt_pow_right (by decide) shift)

private theorem jitteredChecked_eq {middle jitter : Nat} (inside : jitter ≤ middle)
    (small : middle ≤ 5000) (draw : Nat) :
    jitteredChecked (fromMillis middle) jitter draw =
      some (fromMillis (middle - jitter + draw % (2 * jitter + 1))) := by
  have drawn : draw % (2 * jitter + 1) < 2 * jitter + 1 := Nat.mod_lt _ (Nat.succ_pos _)
  obtain ⟨up, down⟩ := fromMillis_spread (draw % (2 * jitter + 1)) inside
  unfold jitteredChecked
  rw [checked_of_lt (by omega : 2 * jitter < 2 ^ 128)]
  simp only [Option.bind_eq_bind, Option.bind_some]
  rw [checked_of_lt (by omega : 2 * jitter + 1 < 2 ^ 128)]
  simp only [Option.bind_some]
  generalize draw % (2 * jitter + 1) = offset at drawn up down ⊢
  have signed : checkedI128 (asI128 offset - asI128 jitter) = some ((offset : Int) - jitter) := by
    rw [asI128_small (by omega), asI128_small (by omega)]
    exact checkedI128_small (by omega) (by omega)
  rw [signed]
  simp only [Option.bind_some]
  split
  · rename_i forward
    have reached : jitter ≤ offset := by omega
    have millis : ((offset : Int) - jitter).toNat % 2 ^ 64 = offset - jitter := by omega
    rw [millis, up reached]
    refine checked_of_lt ?_
    unfold fromMillis Duration.maximum nanosPerMilli
    omega
  · rename_i backward
    have short : offset < jitter := by omega
    have back : checkedI128 (-((offset : Int) - jitter)) = some ((jitter : Int) - offset) := by
      rw [Int.neg_sub]
      exact checkedI128_small (by omega) (by omega)
    rw [back, Option.bind_some]
    have millis : ((jitter : Int) - offset).toNat % 2 ^ 64 = jitter - offset := by omega
    have ordered : fromMillis (jitter - offset) ≤ fromMillis middle :=
      Nat.mul_le_mul_right _ (by omega)
    rw [millis, checkedSub_of_le ordered, down short]

theorem backoffDelayChecked_eq (attempt draw : Nat) :
    backoffDelayChecked attempt draw = some (backoffDelay attempt draw) := by
  have bounds := jitterMillis_bounds attempt
  have middle := cappedMillis_bounds attempt
  have inside : jitterMillis attempt ≤ cappedMillis attempt := by omega
  have scaled : checked (2 ^ 128)
      (asMillis (fromMillis (cappedMillis attempt)) * backoffJitterPct) =
      some (asMillis (fromMillis (cappedMillis attempt)) *
        backoffJitterPct) := by
    rw [asMillis_fromMillis]
    unfold backoffJitterPct
    exact checked_of_lt (by omega)
  unfold backoffDelayChecked
  simp only [factor_eq, capped_eq]
  rw [scaled, Option.bind_eq_bind, Option.bind_some, jitterRange_eq,
    if_neg (by omega : ¬ jitterMillis attempt = 0), jitteredChecked_eq inside middle.2,
    backoffDelay_eq]
  rfl

theorem backoffDelay_bounds (attempt draw : Nat) :
    9 * fromMillis (cappedMillis attempt) ≤ 10 * backoffDelay attempt draw ∧
      10 * backoffDelay attempt draw ≤ 11 * fromMillis (cappedMillis attempt) := by
  have bounds := jitterMillis_bounds attempt
  have drawn : draw % (2 * jitterMillis attempt + 1) < 2 * jitterMillis attempt + 1 :=
    Nat.mod_lt _ (Nat.succ_pos _)
  have millis : 9 * cappedMillis attempt ≤ 10 * delayMillis attempt draw ∧
      10 * delayMillis attempt draw ≤ 11 * cappedMillis attempt := by
    unfold delayMillis
    omega
  rw [backoffDelay_eq]
  unfold fromMillis
  rw [← Nat.mul_assoc, ← Nat.mul_assoc, ← Nat.mul_assoc]
  exact ⟨Nat.mul_le_mul_right _ millis.1, Nat.mul_le_mul_right _ millis.2⟩

end Pavis.Agent
