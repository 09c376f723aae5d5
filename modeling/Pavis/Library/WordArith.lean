/-
Arithmetic on words.

A word holds the numbers below a bound. An operation on words is checked, and then has
no result where the exact one is not a word, or it saturates at the largest word.
-/

import Mathlib.Algebra.Group.Nat.Defs

namespace WordArith

def checked (bound value : Nat) : Option Nat := if value < bound then some value else none

def checkedSub (left right : Nat) : Option Nat :=
  if right ≤ left then some (left - right) else none

theorem checked_of_lt {bound value : Nat} (small : value < bound) :
    checked bound value = some value :=
  if_pos small

theorem checkedSub_of_le {left right : Nat} (ordered : right ≤ left) :
    checkedSub left right = some (left - right) :=
  if_pos ordered

theorem checkedSub_add (left right : Nat) : checkedSub (left + right) left = some right := by
  rw [checkedSub_of_le (Nat.le_add_right left right), Nat.add_sub_cancel_left]

def u64Max : Nat := 2 ^ 64 - 1

def saturatingAdd (largest left right : Nat) : Nat := min (left + right) largest

def saturatingMul (largest left right : Nat) : Nat := min (left * right) largest

def saturatingPow (largest base exponent : Nat) : Nat := min (base ^ exponent) largest

theorem saturatingAdd_of_le {largest left right : Nat} (fits : left + right ≤ largest) :
    saturatingAdd largest left right = left + right :=
  Nat.min_eq_left fits

theorem saturatingMul_le (largest left right : Nat) : saturatingMul largest left right ≤ largest :=
  Nat.min_le_right _ _

theorem saturatingMul_mono (largest left : Nat) {smaller larger : Nat}
    (ordered : smaller ≤ larger) :
    saturatingMul largest left smaller ≤ saturatingMul largest left larger := by
  have products : left * smaller ≤ left * larger := Nat.mul_le_mul_left left ordered
  unfold saturatingMul
  omega

theorem saturatingPow_mono (largest : Nat) {base smaller larger : Nat} (positive : 0 < base)
    (ordered : smaller ≤ larger) :
    saturatingPow largest base smaller ≤ saturatingPow largest base larger := by
  have powers : base ^ smaller ≤ base ^ larger := Nat.pow_le_pow_right positive ordered
  unfold saturatingPow
  omega

end WordArith
