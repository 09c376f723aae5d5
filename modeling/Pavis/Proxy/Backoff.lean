/-
How long a failed attempt is waited for.

The arithmetic is that of the widths of the source, with a result only where every
operation has one.
-/

import Pavis.Agent.BackoffDelay
import Pavis.Proxy.Retry

namespace Pavis.Proxy

open ByteText Config Upstream WordArith

/-- The milliseconds before an attempt, which the source counts in `u16`. -/
def backoffMillis (attempt : Nat) : BackoffStrategy → Option Nat
  | .fixed baseMs => some baseMs
  | .linear baseMs => (checkedSub attempt 1).map (saturatingMul (2 ^ 64 - 1) baseMs)
  | .exponential baseMs maxMs =>
    if attempt < 2 then some 0
    else
      (checkedSub attempt 2).map fun exponent =>
        min (saturatingMul (2 ^ 64 - 1) baseMs (saturatingPow (2 ^ 64 - 1) 2 exponent)) maxMs

namespace RetryContext

def remainingBudget (context : RetryContext) (now : Instant) : Agent.Duration :=
  context.globalDeadline - now

def calculateBackoff (context : RetryContext) : Option Agent.Duration :=
  match context.policy with
  | .disabled => some 0
  | .enabled settings =>
    (backoffMillis context.attempt settings.backoff).map Agent.Duration.fromMillis

def applyBackoff (context : RetryContext) (now : Instant) : Option (Option Agent.Duration) :=
  if context.attempt ≤ 1 then some none
  else
    context.calculateBackoff.map fun backoffDelay =>
      let remaining := context.remainingBudget now
      if remaining = 0 then none else some (min backoffDelay remaining)

end RetryContext

/-- The pause ends by the deadline, and it is no longer than the strategy asks for. -/
theorem RetryContext.applyBackoff_within {context : RetryContext} {now : Instant}
    {pause : Agent.Duration} (waits : context.applyBackoff now = some (some pause)) :
    now + pause ≤ context.globalDeadline ∧
      ∃ delay, context.calculateBackoff = some delay ∧ pause ≤ delay := by
  unfold applyBackoff at waits
  split at waits
  · cases waits
  · obtain ⟨delay, computed, kept⟩ := Option.map_eq_some_iff.mp waits
    dsimp only at kept
    split at kept
    · cases kept
    · rename_i left
      cases kept
      have before : now ≤ context.globalDeadline :=
        Nat.le_of_lt (Nat.lt_of_sub_pos (Nat.pos_of_ne_zero left))
      refine ⟨?_, delay, computed, Nat.min_le_left _ _⟩
      exact (Nat.add_le_add_left (Nat.min_le_right _ _) now).trans_eq (Nat.add_sub_of_le before)

/-- The numbers of a strategy are `u64`. -/
def StrategyWords : BackoffStrategy → Prop
  | .fixed baseMs | .linear baseMs => baseMs < 2 ^ 64
  | .exponential baseMs maxMs => baseMs < 2 ^ 64 ∧ maxMs < 2 ^ 64

variable {attempt delay : Nat} {strategy : BackoffStrategy}

theorem backoffMillis_linear (first : 1 ≤ attempt) (baseMs : Nat) :
    backoffMillis attempt (.linear baseMs) =
      some (saturatingMul (2 ^ 64 - 1) baseMs (attempt - 1)) := by
  rw [backoffMillis, checkedSub_of_le first, Option.map_some]

theorem backoffMillis_exponential (attempt baseMs maxMs : Nat) :
    backoffMillis attempt (.exponential baseMs maxMs) =
      some (if attempt < 2 then 0
        else min (saturatingMul (2 ^ 64 - 1) baseMs
          (saturatingPow (2 ^ 64 - 1) 2 (attempt - 2))) maxMs) := by
  rw [backoffMillis]
  split
  · rfl
  · rename_i late
    rw [checkedSub_of_le (Nat.le_of_not_lt late), Option.map_some]

theorem backoffMillis_eq_none :
    backoffMillis attempt strategy = none ↔
      attempt = 0 ∧ ∃ baseMs, strategy = .linear baseMs := by
  cases strategy with
  | fixed => simp [backoffMillis]
  | linear =>
    rcases Nat.eq_zero_or_pos attempt with rfl | positive
    · simp [backoffMillis, checkedSub]
    · simp [backoffMillis_linear positive, Nat.ne_of_gt positive]
  | exponential => simp [backoffMillis_exponential]

theorem backoffMillis_exponential_le {baseMs maxMs : Nat}
    (delayed : backoffMillis attempt (.exponential baseMs maxMs) = some delay) : delay ≤ maxMs := by
  rw [backoffMillis_exponential] at delayed
  obtain rfl := Option.some.inj delayed
  split
  · exact Nat.zero_le maxMs
  · exact Nat.min_le_right _ _

theorem backoffMillis_lt (words : StrategyWords strategy)
    (delayed : backoffMillis attempt strategy = some delay) : delay < 2 ^ 64 := by
  cases strategy with
  | fixed =>
    obtain rfl := Option.some.inj delayed
    exact words
  | linear =>
    obtain ⟨steps, _, rfl⟩ := Option.map_eq_some_iff.mp delayed
    exact Nat.lt_of_le_of_lt (saturatingMul_le _ _ _) (by decide)
  | exponential =>
    exact Nat.lt_of_le_of_lt (backoffMillis_exponential_le delayed) words.2

private theorem backoffMillis_mono {earlier later sooner : Nat} (first : 1 ≤ earlier)
    (ordered : earlier ≤ later) (soonerDelayed : backoffMillis earlier strategy = some sooner)
    (delayed : backoffMillis later strategy = some delay) : sooner ≤ delay := by
  cases strategy with
  | fixed =>
    obtain rfl := Option.some.inj soonerDelayed
    exact Nat.le_of_eq (Option.some.inj delayed)
  | linear =>
    rw [backoffMillis_linear first] at soonerDelayed
    rw [backoffMillis_linear (Nat.le_trans first ordered)] at delayed
    obtain rfl := Option.some.inj soonerDelayed
    obtain rfl := Option.some.inj delayed
    exact saturatingMul_mono _ _ (Nat.sub_le_sub_right ordered 1)
  | exponential baseMs =>
    rw [backoffMillis_exponential] at soonerDelayed delayed
    obtain rfl := Option.some.inj soonerDelayed
    obtain rfl := Option.some.inj delayed
    rcases Nat.lt_or_ge earlier 2 with early | late
    · rw [if_pos early]
      exact Nat.zero_le _
    · rw [if_neg (Nat.not_lt.mpr late), if_neg (Nat.not_lt.mpr (Nat.le_trans late ordered))]
      have powers := saturatingPow_mono (2 ^ 64 - 1) (by decide : 0 < 2)
        (Nat.sub_le_sub_right ordered 2)
      have products := saturatingMul_mono (2 ^ 64 - 1) baseMs powers
      exact Nat.le_min.mpr
        ⟨Nat.le_trans (Nat.min_le_left _ _) products, Nat.min_le_right _ _⟩

section

variable {context : RetryContext} {settings : RetrySettings}

theorem calculateBackoff_disabled (policy : context.policy = .disabled) :
    context.calculateBackoff = some 0 := by
  unfold RetryContext.calculateBackoff
  rw [policy]

theorem calculateBackoff_enabled (policy : context.policy = .enabled settings) :
    context.calculateBackoff =
      (backoffMillis context.attempt settings.backoff).map Agent.Duration.fromMillis := by
  unfold RetryContext.calculateBackoff
  rw [policy]

end

def RetryContext.Words (context : RetryContext) : Prop :=
  ∀ settings, context.policy = .enabled settings → StrategyWords settings.backoff

/-- What holds of the delays of a policy over the attempts it may count. -/
structure DelaysBounded (context : RetryContext) : Prop where
  defined : ∀ attempt, 1 ≤ attempt → attempt < 2 ^ 16 → ∃ delay,
    { context with attempt := attempt }.calculateBackoff = some delay ∧
      delay ≤ Agent.Duration.fromMillis (2 ^ 64 - 1)
  capped : ∀ attempt < 2 ^ 16, ∀ settings baseMs maxMs delay,
    context.policy = .enabled settings → settings.backoff = .exponential baseMs maxMs →
      { context with attempt := attempt }.calculateBackoff = some delay →
        delay ≤ Agent.Duration.fromMillis maxMs
  monotone : ∀ earlier later sooner delay, 1 ≤ earlier → earlier ≤ later → later < 2 ^ 16 →
    { context with attempt := earlier }.calculateBackoff = some sooner →
      { context with attempt := later }.calculateBackoff = some delay → sooner ≤ delay

theorem delaysBounded {context : RetryContext} (words : context.Words) : DelaysBounded context := by
  cases policy : context.policy with
  | disabled =>
    have delays : ∀ attempt, { context with attempt := attempt }.calculateBackoff = some 0 :=
      fun attempt => calculateBackoff_disabled policy
    refine ⟨fun attempt _ _ => ⟨0, delays attempt, Nat.zero_le _⟩, ?_, ?_⟩
    · intro attempt _ settings baseMs maxMs delay enabled
      rw [policy] at enabled
      cases enabled
    · intro earlier later sooner delay _ _ _ soonerDelayed delayed
      rw [delays earlier] at soonerDelayed
      rw [delays later] at delayed
      exact Nat.le_of_eq (Option.some.inj (soonerDelayed.symm.trans delayed))
  | enabled settings =>
    have delays : ∀ attempt, { context with attempt := attempt }.calculateBackoff =
        (backoffMillis attempt settings.backoff).map Agent.Duration.fromMillis :=
      fun attempt => calculateBackoff_enabled policy
    refine ⟨?_, ?_, ?_⟩
    · intro attempt first _
      cases millis : backoffMillis attempt settings.backoff with
      | none =>
        have zero := (backoffMillis_eq_none.mp millis).1
        omega
      | some delay =>
        have small := backoffMillis_lt (words settings policy) millis
        refine ⟨Agent.Duration.fromMillis delay, ?_, ?_⟩
        · rw [delays attempt, millis, Option.map_some]
        · exact Nat.mul_le_mul_right _ (Nat.le_pred_of_lt small)
    · intro attempt _ other baseMs maxMs delay enabled strategy delayed
      obtain rfl : settings = other := RetryPolicy.enabled.inj (policy.symm.trans enabled)
      rw [delays attempt, strategy] at delayed
      obtain ⟨millis, computed, rfl⟩ := Option.map_eq_some_iff.mp delayed
      exact Nat.mul_le_mul_right _ (backoffMillis_exponential_le computed)
    · intro earlier later sooner delay first ordered _ soonerDelayed delayed
      rw [delays earlier] at soonerDelayed
      rw [delays later] at delayed
      obtain ⟨soonerMillis, soonerComputed, rfl⟩ := Option.map_eq_some_iff.mp soonerDelayed
      obtain ⟨millis, computed, rfl⟩ := Option.map_eq_some_iff.mp delayed
      exact Nat.mul_le_mul_right _ (backoffMillis_mono first ordered soonerComputed computed)

/-- The delays of the agent for every attempt and draw, and those of a retried request for
every attempt from the first on. -/
theorem backoff_delays_bounded :
    (∀ attempt < 2 ^ 32, ∀ draw < 2 ^ 128,
      Agent.backoffDelayChecked attempt draw = some (Agent.backoffDelay attempt draw) ∧
        9 * Agent.Duration.fromMillis (min 5000 (250 * 2 ^ attempt)) ≤
          10 * Agent.backoffDelay attempt draw ∧
        10 * Agent.backoffDelay attempt draw ≤
          11 * Agent.Duration.fromMillis (min 5000 (250 * 2 ^ attempt))) ∧
    (∀ context : RetryContext, context.Words → DelaysBounded context) ∧
    ∀ context : RetryContext, context.calculateBackoff = none ↔
      context.attempt = 0 ∧ ∃ settings baseMs,
        context.policy = .enabled settings ∧ settings.backoff = .linear baseMs := by
  refine ⟨fun attempt _ draw _ => ?_, fun context words => delaysBounded words, fun context => ?_⟩
  · exact ⟨Agent.backoffDelayChecked_eq attempt draw, Agent.backoffDelay_bounds attempt draw⟩
  · cases policy : context.policy with
    | disabled => simp [calculateBackoff_disabled policy]
    | enabled settings =>
      rw [calculateBackoff_enabled policy, Option.map_eq_none_iff, backoffMillis_eq_none]
      constructor
      · rintro ⟨zero, baseMs, strategy⟩
        exact ⟨zero, settings, baseMs, rfl, strategy⟩
      · rintro ⟨zero, other, baseMs, same, strategy⟩
        obtain rfl := RetryPolicy.enabled.inj same
        exact ⟨zero, baseMs, strategy⟩

def linearSettings : RetrySettings where
  maxAttempts := .constant 3
  perTry := .inherit
  retryableReasons := [.connectError]
  retryableStatusCodes := none
  backoff := .linear 100
  retryNonIdempotent := false
  failOnNonReplayableRetry := false
  maxRequestBodyBufferBytes := 1048576

def linearContext (attempt : Nat) : RetryContext :=
  { RetryContext.new (.enabled linearSettings) 10000 (literal "api") 0 with attempt := attempt }

/-- A context that counts from zero takes one from it. -/
theorem linearContext_zero_underflows : (linearContext 0).calculateBackoff = none := rfl

theorem linearContext_delays :
    (linearContext 1).calculateBackoff = some 0 ∧
      (linearContext 3).calculateBackoff = some (Agent.Duration.fromMillis 200) ∧
      DelaysBounded (linearContext 1) ∧
      10 * Agent.backoffDelay 4 7 ≤ 11 * Agent.Duration.fromMillis (min 5000 (250 * 2 ^ 4)) := by
  have words : (linearContext 1).Words := by
    intro settings policy
    obtain rfl := RetryPolicy.enabled.inj policy
    exact (by decide : 100 < 2 ^ 64)
  exact ⟨rfl, rfl, backoff_delays_bounded.2.1 _ words,
    (backoff_delays_bounded.1 4 (by decide) 7 (by decide)).2.2⟩

end Pavis.Proxy
