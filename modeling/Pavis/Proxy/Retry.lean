/-
The retry state of a request.

Every reading of the clock is an argument, and so is whether the shared budget grants
the bytes of a chunk.
-/

import Pavis.Codec.Types
import Pavis.Library.WordArith
import Pavis.Upstream.Cluster

namespace Pavis.Proxy

open ByteText Config Upstream WordArith
open Routing (HttpMethod)

def knownMethods : List HttpMethod :=
  [.get, .post, .put, .delete, .patch, .head, .options, .connect, .trace]

/-- A method that is not known is taken for GET. -/
def methodFromStr (value : Text) : HttpMethod :=
  (knownMethods.find? fun method => method.asStr == Codec.toUppercase value).getD .get

inductive MethodIdempotency where
  | idempotent
  | nonIdempotent
  deriving DecidableEq

def MethodIdempotency.fromMethod : HttpMethod → MethodIdempotency
  | .get | .head | .options | .trace => .idempotent
  | .post | .put | .patch | .delete | .connect => .nonIdempotent

inductive BodyReplayability where
  | buffered
  | streaming
  | empty
  deriving DecidableEq

structure BudgetGuard where
  bytes : Nat
  deriving DecidableEq

def BudgetGuard.new : BudgetGuard := { bytes := 0 }

def BudgetGuard.tryAdd (guard : BudgetGuard) (granted : Bool) (extra : Nat) : BudgetGuard × Bool :=
  if extra = 0 then (guard, true)
  else if granted then ({ bytes := saturatingAdd u64Max guard.bytes extra }, true)
  else (guard, false)

structure BufferedBody where
  bytes : Bytes
  replayability : BodyReplayability
  budgetGuard : Option BudgetGuard
  deriving DecidableEq

namespace BufferedBody

def new (bytes : Bytes) (maxBufferSize : Nat) (forceStreaming : Bool)
    (budgetGuard : Option BudgetGuard) : BufferedBody :=
  { bytes := bytes
    replayability :=
      if forceStreaming then .streaming
      else if bytes = [] then .empty
      else if bytes.length ≤ maxBufferSize then .buffered
      else .streaming
    budgetGuard := budgetGuard }

def canReplay (body : BufferedBody) : Bool :=
  match body.replayability with
  | .empty | .buffered => true
  | .streaming => false

/-- Whether the body may be sent again. -/
def handleNonReplayable (body : BufferedBody) (failOnNonReplayable : Bool) : Bool :=
  body.canReplay || !failOnNonReplayable

end BufferedBody

structure RetryContext where
  globalDeadline : Instant
  attempt : Nat
  maxAttempts : Nat
  policy : RetryPolicy
  upstreamName : Text
  deriving DecidableEq

namespace RetryContext

def new (policy : RetryPolicy) (requestTimeoutMs : Nat) (upstreamName : Text) (now : Instant) :
    RetryContext :=
  { globalDeadline := now + requestTimeoutMs * 1000000
    attempt := 1
    maxAttempts :=
      match policy with
      | .enabled settings => settings.maxAttempts.value
      | .disabled => 1
    policy := policy
    upstreamName := upstreamName }

def isDeadlineExceeded (context : RetryContext) (now : Instant) : Bool :=
  context.globalDeadline ≤ now

def canRetry (context : RetryContext) (now : Instant) : Bool :=
  context.attempt < context.maxAttempts && !context.isDeadlineExceeded now

def nextAttempt (context : RetryContext) : RetryContext :=
  { context with attempt := (context.attempt + 1) % 2 ^ 16 }

def isRetryable (context : RetryContext) (reason : RetryReason) : Bool :=
  match context.policy with
  | .disabled => false
  | .enabled settings => settings.retryableReasons.contains reason

def isStatusCodeRetryable (context : RetryContext) (status : Nat) : Bool :=
  match context.policy with
  | .disabled => false
  | .enabled settings =>
    settings.retryableReasons.contains .statusCode &&
      settings.retryableStatusCodes.any fun codes => codes.codes.contains status

def isMethodAllowed (context : RetryContext) (method : HttpMethod) : Bool :=
  match context.policy with
  | .disabled => false
  | .enabled settings =>
    match MethodIdempotency.fromMethod method with
    | .idempotent => true
    | .nonIdempotent => settings.retryNonIdempotent

end RetryContext

/-- A context of a policy that is enabled, between its first attempt and its last. -/
structure RetryContext.Counting (context : RetryContext) (settings : RetrySettings) : Prop where
  policy : context.policy = .enabled settings
  limit : context.maxAttempts = settings.maxAttempts.value
  first : 1 ≤ context.attempt
  last : context.attempt ≤ context.maxAttempts

namespace RetryContext

theorem counting_new (settings : RetrySettings) (requestTimeoutMs : Nat) (upstreamName : Text)
    (now : Instant) :
    (new (.enabled settings) requestTimeoutMs upstreamName now).Counting settings :=
  ⟨rfl, rfl, Nat.le_refl 1, settings.maxAttempts.positive⟩

section

variable {context : RetryContext} {settings : RetrySettings}

variable {now : Instant}

theorem attempt_lt_of_canRetry (more : context.canRetry now = true) :
    context.attempt < context.maxAttempts := by
  unfold canRetry at more
  simp only [Bool.and_eq_true, decide_eq_true_eq] at more
  exact more.1

variable (counting : context.Counting settings)

include counting

theorem Counting.attempt_nextAttempt (more : context.canRetry now = true) :
    context.nextAttempt.attempt = context.attempt + 1 := by
  have below := attempt_lt_of_canRetry more
  have small := settings.maxAttempts.bounded
  rw [← counting.limit] at small
  exact Nat.mod_eq_of_lt (Nat.lt_of_le_of_lt below small)

theorem Counting.nextAttempt (more : context.canRetry now = true) :
    context.nextAttempt.Counting settings := by
  have counted := counting.attempt_nextAttempt more
  have below := attempt_lt_of_canRetry more
  refine ⟨counting.policy, counting.limit, ?_, ?_⟩
  · rw [counted]
    omega
  · rw [counted]
    exact below

theorem Counting.isRetryable_iff (reason : RetryReason) :
    context.isRetryable reason = true ↔ reason ∈ settings.retryableReasons := by
  unfold isRetryable
  rw [counting.policy]
  exact List.contains_iff_mem

theorem Counting.isMethodAllowed_iff (method : HttpMethod) :
    context.isMethodAllowed method = true ↔
      MethodIdempotency.fromMethod method = .idempotent ∨ settings.retryNonIdempotent = true := by
  unfold isMethodAllowed
  rw [counting.policy]
  dsimp only
  cases MethodIdempotency.fromMethod method with
  | idempotent | nonIdempotent => simp

theorem Counting.reason_of_status {status : Nat}
    (retryable : context.isStatusCodeRetryable status = true) :
    RetryReason.statusCode ∈ settings.retryableReasons := by
  unfold isStatusCodeRetryable at retryable
  rw [counting.policy] at retryable
  simp only [Bool.and_eq_true] at retryable
  exact List.contains_iff_mem.mp retryable.1

end

end RetryContext

end Pavis.Proxy
