/-
Counting semaphores shared by parties in phases.

Which of the waiting parties a free permit goes to is not fixed. What a system
keeps is that every permit is free or with exactly one party.
-/

import Pavis.Library.LabelledRun

namespace CountingSemaphore

open LabelledRun (countP_cons_toNat)

structure Semaphore where
  permits : Nat
  deriving DecidableEq

namespace Semaphore

def tryAcquire (semaphore : Semaphore) : Option Semaphore :=
  match semaphore.permits with
  | 0 => none
  | permits + 1 => some { permits := permits }

def release (semaphore : Semaphore) : Semaphore := { permits := semaphore.permits + 1 }

theorem tryAcquire_eq_some {semaphore after : Semaphore}
    (acquired : semaphore.tryAcquire = some after) : semaphore.permits = after.permits + 1 := by
  unfold tryAcquire at acquired
  split at acquired
  · cases acquired
  · rename_i permits present
    cases acquired
    exact present

theorem tryAcquire_of_pos {semaphore : Semaphore} (positive : 0 < semaphore.permits) :
    semaphore.tryAcquire = some { permits := semaphore.permits - 1 } := by
  unfold tryAcquire
  split
  · omega
  · rename_i permits present
    rw [present]
    rfl

end Semaphore

variable {φ : Type}

variable {parties : List φ} {kind : φ → Bool}

theorem countP_set_add (kind : φ → Bool) {index : Nat} {before : φ}
    (found : parties[index]? = some before) (after : φ) :
    (parties.set index after).countP kind + (kind before).toNat =
      parties.countP kind + (kind after).toNat := by
  induction parties generalizing index with
  | nil => cases found
  | cons head tail ih =>
    cases index with
    | zero =>
      cases found
      rw [List.set_cons_zero, countP_cons_toNat, countP_cons_toNat]
      omega
    | succ =>
      have moved := ih found
      rw [List.set_cons_succ, countP_cons_toNat, countP_cons_toNat]
      omega

theorem countP_concat (kind : φ → Bool) (parties : List φ) (joined : φ) :
    (parties ++ [joined]).countP kind = parties.countP kind + (kind joined).toNat := by
  rw [List.countP_append, List.countP_singleton]
  cases kind joined <;> rfl

theorem countP_le_of_imp {wider : φ → Bool}
    (within : ∀ phase, kind phase = true → wider phase = true) (parties : List φ) :
    parties.countP kind ≤ parties.countP wider :=
  List.countP_mono_left fun phase _ => within phase

theorem countP_eq_of_agree {other : φ → Bool}
    (agree : ∀ phase ∈ parties, kind phase = other phase) :
    parties.countP kind = parties.countP other := by
  apply List.countP_congr
  intro phase member
  rw [agree phase member]

theorem countP_eq_add {first second : φ → Bool} (splits : ∀ phase ∈ parties,
      (kind phase).toNat = (first phase).toNat + (second phase).toNat) :
    parties.countP kind = parties.countP first + parties.countP second := by
  induction parties with
  | nil => rfl
  | cons head tail ih =>
    have later := ih fun phase member => splits phase (List.mem_cons_of_mem head member)
    have here := splits head List.mem_cons_self
    rw [countP_cons_toNat, countP_cons_toNat, countP_cons_toNat, later]
    omega

/-- The free permits and the parties that have one add up to the size. -/
def Conserved (size : Nat) (semaphore : Semaphore) (has : φ → Bool) (parties : List φ) : Prop :=
  semaphore.permits + parties.countP has = size

section

variable {size : Nat} {semaphore after : Semaphore} {has : φ → Bool} {parties : List φ}
  {index : Nat} {old new : φ} (conserved : Conserved size semaphore has parties)

include conserved

theorem Conserved.acquire (acquired : semaphore.tryAcquire = some after)
    (found : parties[index]? = some old) (without : has old = false) (given : has new = true) :
    Conserved size after has (parties.set index new) := by
  have moved := countP_set_add has found new
  have taken := Semaphore.tryAcquire_eq_some acquired
  rw [without, given] at moved
  simp only [Bool.toNat_false, Bool.toNat_true] at moved
  unfold Conserved at conserved ⊢
  omega

theorem Conserved.release (found : parties[index]? = some old) (given : has old = true)
    (without : has new = false) : Conserved size semaphore.release has (parties.set index new) := by
  have moved := countP_set_add has found new
  rw [without, given] at moved
  simp only [Bool.toNat_false, Bool.toNat_true] at moved
  unfold Conserved at conserved ⊢
  change semaphore.permits + 1 + _ = size
  omega

theorem Conserved.move (found : parties[index]? = some old) (same : has new = has old) :
    Conserved size semaphore has (parties.set index new) := by
  have moved := countP_set_add has found new
  rw [same] at moved
  unfold Conserved at conserved ⊢
  omega

theorem Conserved.join (without : has new = false) :
    Conserved size semaphore has (parties ++ [new]) := by
  unfold Conserved at conserved ⊢
  rw [countP_concat, without]
  exact conserved

theorem Conserved.bound {live : φ → Bool} (within : ∀ phase, live phase = true → has phase = true) :
    parties.countP live ≤ size := by
  have counted := countP_le_of_imp within parties
  unfold Conserved at conserved
  omega

theorem Conserved.permits_eq (nobody : ∀ phase ∈ parties, has phase = false) :
    semaphore.permits = size := by
  have none : parties.countP has = 0 := by
    rw [List.countP_eq_zero]
    intro phase member
    rw [nobody phase member]
    exact Bool.false_ne_true
  unfold Conserved at conserved
  omega

end

end CountingSemaphore
