/-
Counting along a counter.

A property that only depends on a number modulo the period holds equally often in
every stretch of one period. A counter that wraps at a modulus which is no multiple
of the period makes a jump, and what is lost and what is won by it can be counted
in intervals.
-/

import Mathlib.Data.Nat.Count

namespace CyclicCount

variable {limit lower upper : Nat}

theorem count_congr {left right : Nat → Prop} [DecidablePred left] [DecidablePred right]
    (same : ∀ number < limit, left number ↔ right number) :
    Nat.count left limit = Nat.count right limit := by
  induction limit with
  | zero => rfl
  | succ limit ih =>
    have earlier := ih fun number below => same number (Nat.lt_succ_of_lt below)
    simp only [Nat.count_succ, earlier, same limit (Nat.lt_succ_self limit)]

section

variable {period : Nat} (holds : Nat → Prop) [DecidablePred holds]

theorem count_stretch (periodic : ∀ number, holds (number + period) ↔ holds number)
    (start : Nat) : Nat.count (fun step => holds (start + step)) period =
      Nat.count holds period := by
  induction start with
  | zero => simp only [Nat.zero_add]
  | succ start =>
    -- one more step at the end replaces the first one
    have front := Nat.count_succ' (fun step => holds (start + step)) period
    have back := Nat.count_succ (fun step => holds (start + step)) period
    have shifted : Nat.count (fun step => holds (start + (step + 1))) period =
        Nat.count (fun step => holds (start + 1 + step)) period := by
      apply count_congr
      intro step _
      rw [Nat.add_assoc start 1 step, Nat.add_comm 1 step]
    rw [shifted] at front
    simp only [Nat.add_zero, periodic start] at front back
    omega

theorem count_wrapping_iff (periodic : ∀ number, holds (number + period) ↔ holds number)
    {modulus start : Nat} (within : start < modulus) (short : period ≤ modulus) :
    Nat.count (fun step => holds ((start + step) % modulus)) period = Nat.count holds period ↔
      Nat.count holds (start + period - modulus) =
        Nat.count (fun step => holds (modulus + step)) (start + period - modulus) := by
  generalize tailEq : start + period - modulus = tail
  obtain ⟨head, turn⟩ : ∃ head, period = head + tail := ⟨period - tail, by omega⟩
  have before : Nat.count (fun step => holds ((start + step) % modulus)) head =
      Nat.count (fun step => holds (start + step)) head := by
    apply count_congr
    intro step below
    rw [Nat.mod_eq_of_lt (by omega)]
  have again : Nat.count (fun step => holds ((start + (head + step)) % modulus)) tail =
      Nat.count holds tail := by
    apply count_congr
    intro step below
    have wrapped : start + (head + step) = step + modulus := by omega
    rw [wrapped, Nat.add_mod_right, Nat.mod_eq_of_lt (by omega)]
  have onward : Nat.count (fun step => holds (start + (head + step))) tail =
      Nat.count (fun step => holds (modulus + step)) tail := by
    apply count_congr
    intro step below
    have passed : start + (head + step) = modulus + step := by omega
    rw [passed]
  have actual := Nat.count_add (fun step => holds ((start + step) % modulus)) head tail
  have ideal := Nat.count_add (fun step => holds (start + step)) head tail
  rw [← turn] at actual ideal
  have stretch := count_stretch holds periodic start
  omega

end

theorem count_interval (ordered : lower ≤ upper) (limit : Nat) :
    Nat.count (fun number => lower ≤ number ∧ number < upper) limit =
      min limit upper - min limit lower := by
  induction limit with
  | zero => simp
  | succ limit ih =>
    rw [Nat.count_succ, ih]
    split <;> omega

/-- The part of an interval below a limit. -/
def overlap (limit lower upper : Nat) : Nat := min limit upper - min limit lower

theorem overlap_zero (lower upper : Nat) : overlap 0 lower upper = 0 := by
  simp [overlap]

theorem overlap_before (before : limit ≤ lower) (upper : Nat) : overlap limit lower upper = 0 := by
  unfold overlap
  omega

theorem overlap_within (reached : lower ≤ limit) (within : limit ≤ upper) :
    overlap limit lower upper = limit - lower := by
  unfold overlap
  omega

theorem overlap_beyond (ordered : lower ≤ upper) (beyond : upper ≤ limit) :
    overlap limit lower upper = upper - lower := by
  unfold overlap
  omega

section

variable {period lower upper : Nat}

def InBucket (period lower upper number : Nat) : Prop :=
  lower ≤ number % period ∧ number % period < upper

instance (period lower upper : Nat) : DecidablePred (InBucket period lower upper) :=
  fun number => inferInstanceAs (Decidable (lower ≤ number % period ∧ number % period < upper))

theorem inBucket_periodic (number : Nat) :
    InBucket period lower upper (number + period) ↔ InBucket period lower upper number := by
  unfold InBucket
  rw [Nat.add_mod_right]

theorem count_inBucket (ordered : lower ≤ upper) {limit : Nat} (below : limit ≤ period) :
    Nat.count (InBucket period lower upper) limit = overlap limit lower upper := by
  rw [overlap, ← count_interval ordered]
  apply count_congr
  intro number small
  rw [InBucket, Nat.mod_eq_of_lt (by omega)]

theorem count_inBucket_second (ordered : lower ≤ upper) (fits : upper ≤ period) {extra : Nat}
    (below : extra ≤ period) :
    Nat.count (InBucket period lower upper) (period + extra) =
      upper - lower + overlap extra lower upper := by
  have second : Nat.count (fun step => InBucket period lower upper (period + step)) extra =
      Nat.count (InBucket period lower upper) extra := by
    apply count_congr
    intro step _
    rw [Nat.add_comm, inBucket_periodic]
  rw [Nat.count_add, second, count_inBucket ordered below,
    count_inBucket ordered (Nat.le_refl period), overlap]
  omega

theorem count_turn_iff (ordered : lower ≤ upper) (fits : upper ≤ period) {modulus start : Nat}
    (within : start < modulus) (short : period ≤ modulus) (positive : 0 < period)
    {tail jump : Nat} (tailEq : tail = start + period - modulus)
    (jumpEq : jump = modulus % period) :
    Nat.count (fun step => InBucket period lower upper ((start + step) % modulus)) period =
        upper - lower ↔
      overlap tail lower upper + overlap jump lower upper =
        if jump + tail ≤ period then overlap (jump + tail) lower upper
        else upper - lower + overlap (jump + tail - period) lower upper := by
  have jumpBelow : jump < period := jumpEq ▸ Nat.mod_lt modulus positive
  have wide : Nat.count (InBucket period lower upper) period = upper - lower := by
    rw [count_inBucket ordered (Nat.le_refl period), overlap]
    omega
  have onward : Nat.count (fun step => InBucket period lower upper (modulus + step)) tail =
      Nat.count (fun step => InBucket period lower upper (jump + step)) tail := by
    apply count_congr
    intro step _
    rw [InBucket, InBucket, jumpEq, Nat.mod_add_mod]
  have joined := Nat.count_add (InBucket period lower upper) jump tail
  rw [← wide, count_wrapping_iff _ inBucket_periodic within short, ← tailEq, onward, wide,
    count_inBucket ordered (by omega)]
  rw [count_inBucket ordered (Nat.le_of_lt jumpBelow)] at joined
  split
  · rename_i first
    rw [count_inBucket ordered first] at joined
    omega
  · rename_i second
    have split : jump + tail = period + (jump + tail - period) := by omega
    rw [split, count_inBucket_second ordered fits (by omega)] at joined
    omega

theorem overlaps_kept {opening closing tail jump : Nat} (narrow : lower < upper)
    (low : lower = 0 ∧ upper = opening ∨ opening ≤ lower)
    (high : lower = closing ∧ upper = period ∨ upper ≤ closing) (inside : opening ≤ period)
    (jumpBelow : jump < period) (tailBelow : tail < period)
    (fits : tail = 0 ∨ jump = 0 ∨ jump + tail ≤ opening ∨ period + closing ≤ jump + tail) :
    overlap tail lower upper + overlap jump lower upper =
      if jump + tail ≤ period then overlap (jump + tail) lower upper
      else upper - lower + overlap (jump + tail - period) lower upper := by
  have ordered := Nat.le_of_lt narrow
  rcases fits with rfl | rfl | early | late
  · rw [overlap_zero, Nat.zero_add, Nat.add_zero jump, if_pos (Nat.le_of_lt jumpBelow)]
  · rw [overlap_zero, Nat.add_zero, Nat.zero_add tail, if_pos (Nat.le_of_lt tailBelow)]
  · rw [if_pos (Nat.le_trans early inside)]
    rcases low with ⟨bottom, ends⟩ | later
    · rw [overlap_within (by omega) (by omega), overlap_within (by omega) (by omega),
        overlap_within (by omega) (by omega)]
      omega
    · rw [overlap_before (by omega), overlap_before (by omega), overlap_before (by omega)]
  · rcases high with ⟨begins, ends⟩ | earlier
    · rw [overlap_within (by omega) (by omega), overlap_within (by omega) (by omega)]
      split
      all_goals
        rw [overlap_within (by omega) (by omega)]
        omega
    · rw [overlap_beyond ordered (by omega), overlap_beyond ordered (by omega),
        if_neg (by omega), overlap_beyond ordered (by omega)]

end

section

variable {cut : Nat → Nat} {buckets : Nat}

theorem cut_mono (widths : ∀ index < buckets, cut index < cut (index + 1)) {left right : Nat}
    (ordered : left ≤ right) (listed : right ≤ buckets) : cut left ≤ cut right := by
  induction right, ordered using Nat.le_induction with
  | base => exact Nat.le_refl _
  | succ right _ ih =>
    have step := widths right listed
    have earlier := ih (Nat.le_of_succ_le listed)
    omega

/-- A turn is divided into buckets by cuts from zero to the period. All of them are met
as often as they are wide exactly if the turn does not wrap, the wrap makes no jump, or
what is lost and won by it lies in one bucket, the first or the last. -/
theorem buckets_kept_iff (widths : ∀ index < buckets, cut index < cut (index + 1))
    (first : cut 0 = 0) (some : 0 < buckets) {modulus start : Nat} (within : start < modulus)
    (short : cut buckets ≤ modulus) {tail jump : Nat}
    (tailEq : tail = start + cut buckets - modulus) (jumpEq : jump = modulus % cut buckets) :
    (∀ index < buckets,
        Nat.count (fun step => InBucket (cut buckets) (cut index) (cut (index + 1))
          ((start + step) % modulus)) (cut buckets) = cut (index + 1) - cut index) ↔
      tail = 0 ∨ jump = 0 ∨ jump + tail ≤ cut 1 ∨
        cut buckets + cut (buckets - 1) ≤ jump + tail := by
  have opened : 0 < cut 1 := first ▸ widths 0 some
  have positive : 0 < cut buckets :=
    Nat.lt_of_lt_of_le opened (cut_mono widths some (Nat.le_refl buckets))
  have jumpBelow : jump < cut buckets := jumpEq ▸ Nat.mod_lt modulus positive
  have tailBelow : tail < cut buckets := by omega
  have turn := fun index (below : index < buckets) =>
    count_turn_iff (Nat.le_of_lt (widths index below)) (cut_mono widths below (Nat.le_refl _))
      within short positive tailEq jumpEq
  have lastUpper : cut (buckets - 1 + 1) = cut buckets := by rw [Nat.sub_add_cancel some]
  have lastWide := widths (buckets - 1) (by omega)
  rw [lastUpper] at lastWide
  clear tailEq jumpEq
  constructor
  · intro kept
    by_cases inFirst : jump + tail ≤ cut buckets
    · have opening := (turn 0 some).mp (kept 0 some)
      rw [if_pos inFirst, first, Nat.zero_add] at opening
      simp only [overlap] at opening
      omega
    · have closing := (turn (buckets - 1) (by omega)).mp (kept (buckets - 1) (by omega))
      obtain ⟨extra, surplus⟩ : ∃ extra, jump + tail = cut buckets + extra :=
        ⟨jump + tail - cut buckets, by omega⟩
      rw [if_neg inFirst, lastUpper, surplus, Nat.add_sub_cancel_left] at closing
      simp only [overlap] at closing
      omega
  · intro fits index below
    rw [turn index below]
    have narrow := widths index below
    have low : cut index = 0 ∧ cut (index + 1) = cut 1 ∨ cut 1 ≤ cut index := by
      rcases Nat.eq_zero_or_pos index with rfl | later
      · exact .inl ⟨first, rfl⟩
      · exact .inr (cut_mono widths later (Nat.le_of_lt below))
    have high : cut index = cut (buckets - 1) ∧ cut (index + 1) = cut buckets ∨
        cut (index + 1) ≤ cut (buckets - 1) := by
      rcases Nat.lt_or_ge (index + 1) buckets with earlier | last
      · exact .inr (cut_mono widths (by omega) (by omega))
      · have same : index = buckets - 1 := by omega
        rw [same, lastUpper]
        exact .inl ⟨rfl, rfl⟩
    exact overlaps_kept narrow low high (cut_mono widths some (Nat.le_refl buckets)) jumpBelow
      tailBelow fits

end

end CyclicCount
