/-
What becomes of a retry policy.

A policy is accepted when each of its options is. The timeout of an attempt is
the exception: its milliseconds are cut to 32 bits before they are compared with
the timeout of the route, so a long one may pass as a short one.
-/

import Pavis.Codec.RoutesExport

namespace Pavis.Codec

open ByteText Fallible
open Config (NonZero RetryReason RetrySettings Timeout TryTimeout)

/-- The options are within what the documentation allows. -/
structure RetryPolicy.Permitted (policy : RetryPolicy) (routeTimeout : Timeout) : Prop where
  attempts : 1 ≤ policy.maxAttempts ∧ policy.maxAttempts ≤ 10
  perTry : ∀ duration, policy.perTry = some duration → 1 ≤ duration.asMillis →
    duration.asMillis ≤ requestTimeoutMs routeTimeout
  codes : literal "status_code" ∈ policy.retryableReasons →
    ∃ codes, policy.retryableStatusCodes = some codes ∧ codes ≠ []

/-- The settings are the options of the policy. -/
structure RetryPolicy.KeptBy (policy : RetryPolicy) (settings : RetrySettings) : Prop where
  attempts : settings.maxAttempts.value = policy.maxAttempts
  perTry : ∀ duration, policy.perTry = some duration → 1 ≤ duration.asMillis →
    ∃ kept, settings.perTry = .enabled kept ∧ kept.value = duration.asMillis
  codes : .statusCode ∈ settings.retryableReasons →
    ∃ codes, settings.retryableStatusCodes = some { codes := codes } ∧ codes ≠ []

/-- What is accepted is kept as it was written, and what is not permitted is rejected. -/
structure ConvertsFaithfully (vhostIndex pathIndex : Nat) (policy : RetryPolicy)
    (routeTimeout : Timeout) : Prop where
  kept : ∀ result, convertRetryPolicy vhostIndex pathIndex policy routeTimeout = .ok result →
    ∃ settings, result = .enabled settings ∧ policy.KeptBy settings ∧
      policy.Permitted routeTimeout
  rejected : ¬ policy.Permitted routeTimeout →
    ∃ failure, convertRetryPolicy vhostIndex pathIndex policy routeTimeout = .error failure

/-- The checks that do not look at the timeout of an attempt. -/
structure RetryPolicy.OtherwiseAccepted (policy : RetryPolicy) : Prop where
  attempts : 1 ≤ policy.maxAttempts ∧ policy.maxAttempts ≤ 10
  reasons : ∀ reason ∈ policy.retryableReasons, (reasonTable.lookup reason).isSome = true
  codes : literal "status_code" ∈ policy.retryableReasons →
    ∃ codes, policy.retryableStatusCodes = some codes ∧ codes ≠ []

/-- The timeout of an attempt does not fit 32 bits, and what is left of it is short enough. -/
def RetryPolicy.Wraps (policy : RetryPolicy) (routeTimeout : Timeout) : Prop :=
  ∃ duration, policy.perTry = some duration ∧ 2 ^ 32 ≤ duration.asMillis ∧
    duration.asMillis % 2 ^ 32 ≤ requestTimeoutMs routeTimeout

private theorem reasonTable_statusCode {reason : Text}
    (found : reasonTable.lookup reason = some .statusCode) : reason = literal "status_code" := by
  unfold reasonTable at found
  simp only [List.lookup_cons, List.lookup_nil] at found
  split at found
  · rename_i same
    exact eq_of_beq same
  · repeat' split at found
    all_goals cases found

section

variable {vhostIndex pathIndex : Nat}

theorem reasonToRuntime_eq_ok {text : Text} {reason : RetryReason} :
    reasonToRuntime vhostIndex pathIndex text = .ok reason ↔
      reasonTable.lookup text = some reason := by
  unfold reasonToRuntime
  cases reasonTable.lookup text with
  | none | some => simp

private theorem statusCode_mem_iff {texts : List Text} {reasons : List RetryReason}
    (read : texts.mapM (reasonToRuntime vhostIndex pathIndex) = .ok reasons) :
    .statusCode ∈ reasons ↔ literal "status_code" ∈ texts := by
  have paired := mapM_eq_ok.mp read
  constructor
  · intro listed
    obtain ⟨text, written, ran⟩ := exists_of_mem_right paired listed
    rw [← reasonTable_statusCode (reasonToRuntime_eq_ok.mp ran)]
    exact written
  · intro written
    obtain ⟨reason, listed, ran⟩ := exists_of_mem_left paired written
    have named : reasonTable.lookup (literal "status_code") = some .statusCode := by decide
    cases named.symm.trans (reasonToRuntime_eq_ok.mp ran)
    exact listed

theorem statusCodesToRuntime_exists_iff {reasons : List RetryReason} {codes : Option (List Nat)} :
    (∃ result, statusCodesToRuntime vhostIndex pathIndex reasons codes = .ok result) ↔
      (.statusCode ∈ reasons → ∃ given, codes = some given ∧ given ≠ []) := by
  unfold statusCodesToRuntime
  split
  · rename_i byStatus
    cases codes with
    | none => simp [byStatus]
    | some given =>
      cases given with
      | nil | cons => simp [byStatus]
  · rename_i otherwise
    simp [otherwise]

private theorem perTryToRuntime_exists_iff {timeout : Timeout} {perTry : Option StdDuration} :
    (∃ result, perTryToRuntime vhostIndex pathIndex timeout perTry = .ok result) ↔
      ∀ duration, perTry = some duration →
        duration.asMillis % 2 ^ 32 ≤ requestTimeoutMs timeout := by
  cases perTry with
  | none => simp [perTryToRuntime]
  | some duration =>
    constructor
    · rintro ⟨result, ran⟩ other same
      cases same
      obtain ⟨_, within, _⟩ := bind_eq_ok.mp ran
      exact Nat.le_of_not_lt (reject_eq_ok.mp within)
    · intro within
      refine bind_succeeds ⟨(), reject_passes (Nat.not_lt_of_le (within duration rfl))⟩ ?_
      intro _ _
      exact ⟨_, rfl⟩

theorem perTryToRuntime_kept {timeout : Timeout} {duration : StdDuration} {result : TryTimeout}
    (ran : perTryToRuntime vhostIndex pathIndex timeout (some duration) = .ok result)
    (positive : 1 ≤ duration.asMillis) (fits : duration.asMillis < 2 ^ 32) :
    ∃ kept, result = .enabled kept ∧ kept.value = duration.asMillis := by
  obtain ⟨_, _, built⟩ := bind_eq_ok.mp ran
  cases built
  refine ⟨_, rfl, ?_⟩
  rw [Nat.mod_eq_of_lt fits]
  unfold NonZero.new
  rw [dif_pos ⟨positive, fits⟩]
  rfl

private theorem convertRetryPolicy_exists_iff {policy : RetryPolicy} {routeTimeout : Timeout} :
    (∃ result, convertRetryPolicy vhostIndex pathIndex policy routeTimeout = .ok result) ↔
      policy.OtherwiseAccepted ∧
        ∀ duration, policy.perTry = some duration →
          duration.asMillis % 2 ^ 32 ≤ requestTimeoutMs routeTimeout := by
  constructor
  · rintro ⟨result, ran⟩
    simp only [convertRetryPolicy, bind_eq_ok] at ran
    obtain ⟨_, atLeast, _, atMost, _, _, reasons, read, codes, given, perTry, within, _⟩ := ran
    refine ⟨⟨⟨Nat.pos_of_ne_zero (reject_eq_ok.mp atLeast),
      Nat.le_of_not_lt (reject_eq_ok.mp atMost)⟩, ?_, ?_⟩,
      perTryToRuntime_exists_iff.mp ⟨perTry, within⟩⟩
    · intro reason written
      obtain ⟨found, _, known⟩ := exists_of_mem_left (mapM_eq_ok.mp read) written
      rw [reasonToRuntime_eq_ok.mp known]
      rfl
    · intro written
      have asked := (statusCode_mem_iff read).mpr written
      exact statusCodesToRuntime_exists_iff.mp ⟨codes, given⟩ asked
  · rintro ⟨accepted, within⟩
    obtain ⟨atLeast, atMost⟩ := accepted.attempts
    have known : ∀ reason ∈ policy.retryableReasons,
        ∃ found, reasonToRuntime vhostIndex pathIndex reason = .ok found := by
      intro reason written
      obtain ⟨found, lookedUp⟩ := Option.isSome_iff_exists.mp (accepted.reasons reason written)
      exact ⟨found, reasonToRuntime_eq_ok.mpr lookedUp⟩
    have narrow : policy.maxAttempts < 2 ^ 16 := Nat.lt_of_le_of_lt atMost (by decide)
    refine bind_succeeds ⟨(), reject_passes (Nat.ne_of_gt atLeast)⟩ fun _ _ => ?_
    refine bind_succeeds ⟨(), reject_passes (Nat.not_lt_of_le atMost)⟩ fun _ _ => ?_
    refine bind_succeeds ⟨_, nonZero_value ⟨policy.maxAttempts, atLeast, narrow⟩⟩ fun _ _ => ?_
    refine bind_succeeds (mapM_succeeds known) fun reasons read => ?_
    refine bind_succeeds (statusCodesToRuntime_exists_iff.mpr fun byStatus =>
      accepted.codes ((statusCode_mem_iff read).mp byStatus)) fun codes _ => ?_
    refine bind_succeeds (perTryToRuntime_exists_iff.mpr within) fun perTry _ => ?_
    exact ⟨_, rfl⟩

private theorem convertRetryPolicy_kept {policy : RetryPolicy} {routeTimeout : Timeout}
    {result : Config.RetryPolicy}
    (ran : convertRetryPolicy vhostIndex pathIndex policy routeTimeout = .ok result)
    (fits : ∀ duration, policy.perTry = some duration → duration.asMillis < 2 ^ 32) :
    ∃ settings, result = .enabled settings ∧ policy.KeptBy settings := by
  simp only [convertRetryPolicy, bind_eq_ok] at ran
  obtain ⟨_, _, _, _, attempts, counted, reasons, _, codes, given, perTry, timed, built⟩ := ran
  cases built
  refine ⟨_, rfl, ⟨nonZero_eq_ok counted, ?_, statusCodesToRuntime_given given⟩⟩
  intro duration written positive
  rw [written] at timed
  exact perTryToRuntime_kept timed positive (fits duration written)

private theorem requestTimeoutMs_lt (timeout : Timeout) : requestTimeoutMs timeout < 2 ^ 32 := by
  cases timeout with
  | disabled => decide
  | enabled duration => exact duration.bounded

end

/-- A policy is converted faithfully exactly when no timeout of an attempt slips
through by losing its upper bits. -/
theorem convertRetryPolicy_faithful_iff (vhostIndex pathIndex : Nat) (policy : RetryPolicy)
    (routeTimeout : Timeout) :
    ConvertsFaithfully vhostIndex pathIndex policy routeTimeout ↔
      ¬ (policy.OtherwiseAccepted ∧ policy.Wraps routeTimeout) := by
  have narrow := requestTimeoutMs_lt routeTimeout
  constructor
  · rintro faithful ⟨accepted, duration, written, wide, short⟩
    obtain ⟨result, ran⟩ := convertRetryPolicy_exists_iff.mpr ⟨accepted, by
      intro other same
      cases written.symm.trans same
      exact short⟩
    obtain ⟨_, _, _, permitted⟩ := faithful.kept result ran
    have bounded := permitted.perTry duration written (Nat.le_trans (by decide) wide)
    omega
  · intro safe
    have permitted : ∀ result,
        convertRetryPolicy vhostIndex pathIndex policy routeTimeout = .ok result →
          (∀ duration, policy.perTry = some duration → duration.asMillis < 2 ^ 32) ∧
            policy.Permitted routeTimeout := by
      intro result ran
      obtain ⟨accepted, within⟩ := convertRetryPolicy_exists_iff.mp ⟨result, ran⟩
      have fits : ∀ duration, policy.perTry = some duration → duration.asMillis < 2 ^ 32 := by
        intro duration written
        by_contra wide
        exact safe ⟨accepted, duration, written, Nat.le_of_not_lt wide, within duration written⟩
      refine ⟨fits, accepted.attempts, ?_, accepted.codes⟩
      intro duration written _
      rw [← Nat.mod_eq_of_lt (fits duration written)]
      exact within duration written
    constructor
    · intro result ran
      obtain ⟨fits, allowed⟩ := permitted result ran
      obtain ⟨settings, same, kept⟩ := convertRetryPolicy_kept ran fits
      exact ⟨settings, same, kept, allowed⟩
    · intro refused
      cases ran : convertRetryPolicy vhostIndex pathIndex policy routeTimeout with
      | error failure => exact ⟨failure, rfl⟩
      | ok result => exact absurd (permitted result ran).2 refused

def retryWithin (perTry : StdDuration) : RetryPolicy :=
  { maxAttempts := 3
    retryableReasons := [literal "connect_error"]
    retryableStatusCodes := none
    backoff := .fixed 100
    retryNonIdempotent := false
    failOnNonReplayableRetry := false
    maxRequestBodyBufferBytes := 1048576
    perTry := some perTry }

theorem minute_attempt_faithful :
    ConvertsFaithfully 0 0 (retryWithin (.fromMillis 60000)) .disabled := by
  refine (convertRetryPolicy_faithful_iff 0 0 _ _).mpr ?_
  rintro ⟨_, duration, written, wide, _⟩
  cases written
  revert wide
  decide +kernel

/-- Fifty days are accepted under the timeout of a minute and kept as 25 seconds. -/
theorem long_attempt_accepted :
    (convertRetryPolicy 0 0 (retryWithin (.fromMillis (2 ^ 32 + 25000))) .disabled).map
        (fun result =>
          match result with
          | .enabled settings => some settings.perTry
          | .disabled => none) =
      .ok (some (.enabled (.constant 25000))) ∧
    ¬ (retryWithin (.fromMillis (2 ^ 32 + 25000))).Permitted .disabled := by
  refine ⟨by decide +kernel, ?_⟩
  intro permitted
  have bounded := permitted.perTry _ rfl (by decide +kernel)
  revert bounded
  decide +kernel

end Pavis.Codec
