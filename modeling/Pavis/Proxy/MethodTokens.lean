/-
Which methods are retried.

The method of a request is a token, and the tokens are not a fixed set. The hooks turn the
token into one of nine methods before they classify it, and a token they do not know
becomes GET.
-/

import Pavis.Proxy.Hooks

namespace Pavis.Proxy

open ByteText Config Upstream
open Routing (HttpMethod)
open RequestContext (proxyReason connectReason)

def safeMethods : List HttpMethod := [.get, .head, .options, .trace]

def unsafeMethods : List HttpMethod := [.post, .put, .patch, .delete, .connect]

/-- One of the four methods that are safe to retry, in any case of its letters. -/
def SafeToken (token : Text) : Prop :=
  ∃ method ∈ safeMethods, eqIgnoreAsciiCase token method.asStr = true

def KnownUnsafe (token : Text) : Prop :=
  ∃ method ∈ unsafeMethods, Codec.toUppercase token = method.asStr

instance (token : Text) : Decidable (SafeToken token) :=
  inferInstanceAs (Decidable (∃ method ∈ safeMethods, _))

instance (token : Text) : Decidable (KnownUnsafe token) :=
  inferInstanceAs (Decidable (∃ method ∈ unsafeMethods, _))

private theorem mem_knownMethods (method : HttpMethod) : method ∈ knownMethods := by
  cases method <;> decide

private theorem asStr_inj : ∀ method ∈ knownMethods, ∀ other ∈ knownMethods,
    method.asStr = other.asStr → method = other := by
  decide

variable {method : HttpMethod}

private theorem fromMethod_nonIdempotent :
    MethodIdempotency.fromMethod method = .nonIdempotent ↔ method ∈ unsafeMethods := by
  cases method <;> decide

private theorem methodFromStr_of_uppercase {token : Text}
    (spelled : Codec.toUppercase token = method.asStr) : methodFromStr token = method := by
  unfold methodFromStr
  cases found : knownMethods.find? (fun known => known.asStr == Codec.toUppercase token) with
  | none =>
    have missing := List.find?_eq_none.mp found method (mem_knownMethods method)
    exact absurd (beq_iff_eq.mpr spelled.symm) missing
  | some known =>
    have same : known.asStr = Codec.toUppercase token := by simpa using List.find?_some found
    exact asStr_inj known (mem_knownMethods known) method (mem_knownMethods method)
      (same.trans spelled)

private theorem nonIdempotent_iff (token : Text) :
    MethodIdempotency.fromMethod (methodFromStr token) = .nonIdempotent ↔ KnownUnsafe token := by
  constructor
  · intro classified
    have member := fromMethod_nonIdempotent.mp classified
    refine ⟨methodFromStr token, member, ?_⟩
    unfold methodFromStr at member ⊢
    cases found : knownMethods.find? (fun known => known.asStr == Codec.toUppercase token) with
    | none =>
      rw [found] at member
      exact absurd member (by decide)
    | some known =>
      have same : known.asStr = Codec.toUppercase token := by simpa using List.find?_some found
      exact same.symm
  · rintro ⟨method, member, spelled⟩
    rw [methodFromStr_of_uppercase spelled]
    exact fromMethod_nonIdempotent.mpr member

/-- A call of one of the three hooks that classify the method. The error that could not
connect comes without the flag, and the connection that failed was a fresh one. -/
inductive HookCall where
  | failToConnect (etype : ErrorType) (context : Option Text) (now : Instant)
  | errorWhileProxy (error : ProxyError) (retryBufferTruncated : Bool) (now : Instant)
  | responseFilter (status : StatusCode) (now : Instant)

namespace HookCall

def setsRetry (call : HookCall) (ctx : RequestContext) (method : HttpMethod) : Bool :=
  match call with
  | .failToConnect etype context now =>
    (ctx.failToConnect method { etype := etype, context := context, retry := false }
      now).2.retry
  | .errorWhileProxy error retryBufferTruncated now =>
    (ctx.errorWhileProxy method error false retryBufferTruncated now).2.retry
  | .responseFilter status now =>
    (ctx.responseFilter method status now).2.any fun error => error.retry

def reason : HookCall → RetryReason
  | .failToConnect etype _ _ => connectReason etype
  | .errorWhileProxy error _ _ => proxyReason error.etype
  | .responseFilter _ _ => .statusCode

def now : HookCall → Instant
  | .failToConnect _ _ now | .errorWhileProxy _ _ now | .responseFilter _ now => now

private theorem setsRetry_without {call : HookCall} {ctx : RequestContext} (method : HttpMethod)
    (absent : ctx.retryCtx = none) : call.setsRetry ctx method = false := by
  cases call with
  | failToConnect => simp [setsRetry, RequestContext.failToConnect, absent]
  | errorWhileProxy =>
    simp [setsRetry, RequestContext.errorWhileProxy, absent]
  | responseFilter => simp [setsRetry, RequestContext.responseFilter, absent]

private theorem isRetryable_of_status {retryCtx : RetryContext} {status : Nat}
    (retryable : retryCtx.isStatusCodeRetryable status = true) :
    retryCtx.isRetryable .statusCode = true := by
  unfold RetryContext.isStatusCodeRetryable at retryable
  unfold RetryContext.isRetryable
  split at retryable
  · cases retryable
  · rw [Bool.and_eq_true] at retryable
    exact retryable.1

private theorem allowed_of_setsRetry {call : HookCall} {ctx : RequestContext} {method : HttpMethod}
    {retryCtx : RetryContext} (present : ctx.retryCtx = some retryCtx)
    (asked : call.setsRetry ctx method = true) :
    retryCtx.isMethodAllowed method = true ∧ retryCtx.isRetryable call.reason = true ∧
      retryCtx.canRetry call.now = true := by
  cases call with
  | failToConnect =>
    simp only [setsRetry, RequestContext.failToConnect, present] at asked
    split at asked
    · rename_i granted
      simp only [Bool.and_eq_true] at granted
      exact ⟨granted.1.1, granted.1.2, granted.2⟩
    · cases asked
  | errorWhileProxy =>
    simp only [setsRetry, RequestContext.errorWhileProxy, present, Bool.false_eq_true,
      if_false] at asked
    split at asked
    · rename_i granted
      simp only [Bool.and_eq_true] at granted
      exact ⟨granted.1.1, granted.1.2, granted.2⟩
    · cases asked
  | responseFilter =>
    simp only [setsRetry, RequestContext.responseFilter, present] at asked
    split at asked
    · rename_i granted
      simp only [Bool.and_eq_true] at granted
      exact ⟨granted.1.1, isRetryable_of_status granted.1.2, granted.2⟩
    · cases asked

end HookCall

/-! ### Policies -/

def hookReasons : List RetryReason := [.connectError, .connectTimeout, .readTimeout, .statusCode]

theorem HookCall.reason_mem (call : HookCall) : call.reason ∈ hookReasons := by
  cases call with
  | failToConnect etype =>
    cases etype <;> simp [reason, connectReason, hookReasons]
  | errorWhileProxy error =>
    obtain ⟨etype, context, retry⟩ := error
    cases etype <;> simp [reason, proxyReason, hookReasons]
  | responseFilter => simp [reason, hookReasons]

/-- The methods that are not idempotent are not to be retried. -/
def KeepsUnsafe : RetryPolicy → Prop
  | .disabled => True
  | .enabled settings => settings.retryNonIdempotent = false

/-- The policy lets one of the hooks ask for a second attempt. -/
def Grants : RetryPolicy → Prop
  | .disabled => False
  | .enabled settings =>
    1 < settings.maxAttempts.value ∧ ∃ reason ∈ settings.retryableReasons, reason ∈ hookReasons

/-- A request whose attempts are counted under a policy, if they are counted at all. -/
def RequestContext.Under (ctx : RequestContext) (policy : RetryPolicy) : Prop :=
  ∀ retryCtx, ctx.retryCtx = some retryCtx →
    ∃ settings, policy = .enabled settings ∧ retryCtx.Counting settings

def firstAttempt (settings : RetrySettings) : RequestContext :=
  { newRequestCtx with
    retryCtx := some (RetryContext.new (.enabled settings) 1000 (literal "api") 0) }

theorem firstAttempt_under (settings : RetrySettings) :
    (firstAttempt settings).Under (.enabled settings) := by
  intro retryCtx present
  obtain rfl := Option.some.inj present
  exact ⟨settings, rfl, RetryContext.counting_new settings _ _ _⟩

def callFor : RetryReason → HookCall
  | .connectTimeout => .failToConnect .connectTimedout none 0
  | .readTimeout =>
    .errorWhileProxy { etype := .readTimedout, context := none, retry := false } false 0
  | .statusCode =>
    .errorWhileProxy { etype := .internalError, context := none, retry := false } false 0
  | .connectError | .perTryTimeout | .poolFull => .failToConnect .internalError none 0

private theorem callFor_setsRetry {settings : RetrySettings} {reason : RetryReason}
    (idempotent : MethodIdempotency.fromMethod method = .idempotent)
    (listed : reason ∈ settings.retryableReasons) (possible : reason ∈ hookReasons)
    (more : 1 < settings.maxAttempts.value) :
    (callFor reason).setsRetry (firstAttempt settings) method = true := by
  have counting := RetryContext.counting_new settings 1000 (literal "api") 0
  have allowed := (counting.isMethodAllowed_iff method).mpr (.inl idempotent)
  have retryable := (counting.isRetryable_iff reason).mpr listed
  have again : (RetryContext.new (.enabled settings) 1000 (literal "api") 0).canRetry 0 = true := by
    simp [RetryContext.canRetry, RetryContext.new, RetryContext.isDeadlineExceeded, more]
  have connects : ∀ etype, connectReason etype = reason →
      (HookCall.failToConnect etype none 0).setsRetry (firstAttempt settings) method = true := by
    intro etype same
    simp [HookCall.setsRetry, RequestContext.failToConnect, firstAttempt, same, allowed, retryable,
      again, RequestContext.canReplay, newRequestCtx]
  have proxies : ∀ etype, proxyReason etype = reason →
      (HookCall.errorWhileProxy { etype := etype, context := none, retry := false }
        false 0).setsRetry (firstAttempt settings) method = true := by
    intro etype same
    simp [HookCall.setsRetry, RequestContext.errorWhileProxy, firstAttempt, same, allowed,
      retryable, again]
  cases reason with
  | connectError => exact connects .internalError rfl
  | connectTimeout => exact connects .connectTimedout rfl
  | readTimeout => exact proxies .readTimedout rfl
  | statusCode => exact proxies .internalError rfl
  | perTryTimeout | poolFull => exact absurd possible (by decide)

/-- Under a policy that keeps the unsafe methods from being retried, the hooks leave a token
alone exactly if it spells one of the five methods known as unsafe, or the policy never
lets them ask. -/
theorem token_never_retried_iff {policy : RetryPolicy} (keeps : KeepsUnsafe policy) (token : Text) :
    (∀ ctx : RequestContext, ctx.Under policy → ∀ call : HookCall,
      call.setsRetry ctx (methodFromStr token) = false) ↔
    KnownUnsafe token ∨ ¬ Grants policy := by
  constructor
  · intro never
    by_contra neither
    rw [not_or, not_not] at neither
    obtain ⟨unknown, grants⟩ := neither
    have idempotent : MethodIdempotency.fromMethod (methodFromStr token) = .idempotent := by
      cases classified : MethodIdempotency.fromMethod (methodFromStr token) with
      | idempotent => rfl
      | nonIdempotent => exact absurd ((nonIdempotent_iff token).mp classified) unknown
    cases policy with
    | disabled => exact grants
    | enabled settings =>
      obtain ⟨more, reason, listed, possible⟩ := grants
      have asked := callFor_setsRetry idempotent listed possible more
      rw [never _ (firstAttempt_under settings)] at asked
      cases asked
  · intro condition ctx under call
    cases asked : call.setsRetry ctx (methodFromStr token) with
    | false => rfl
    | true =>
      exfalso
      cases present : ctx.retryCtx with
      | none =>
        rw [HookCall.setsRetry_without _ present] at asked
        cases asked
      | some retryCtx =>
        obtain ⟨settings, rfl, counting⟩ := under retryCtx present
        obtain ⟨allowed, retryable, again⟩ := HookCall.allowed_of_setsRetry present asked
        have notUnsafe : ¬ KnownUnsafe token := by
          intro unsafeToken
          have classified := (nonIdempotent_iff token).mpr unsafeToken
          rcases (counting.isMethodAllowed_iff _).mp allowed with idempotent | enabled
          · rw [classified] at idempotent
            cases idempotent
          · rw [keeps] at enabled
            cases enabled
        have attempts : 1 < settings.maxAttempts.value := by
          have below := RetryContext.attempt_lt_of_canRetry again
          have first := counting.first
          rw [counting.limit] at below
          omega
        have grants : Grants (.enabled settings) :=
          ⟨attempts, call.reason, (counting.isRetryable_iff _).mp retryable, call.reason_mem⟩
        exact condition.elim notUnsafe fun refused => refused grants

def cautiousSettings : RetrySettings where
  maxAttempts := .constant 2
  perTry := .inherit
  retryableReasons := [.connectError]
  retryableStatusCodes := none
  backoff := .fixed 0
  retryNonIdempotent := false
  failOnNonReplayableRetry := false
  maxRequestBodyBufferBytes := 1024

/-- The token is taken for GET. -/
theorem lock_is_retried :
    ¬ SafeToken (literal "LOCK") ∧ KeepsUnsafe (.enabled cautiousSettings) ∧
      (firstAttempt cautiousSettings).Under (.enabled cautiousSettings) ∧
      (HookCall.failToConnect .internalError none 0).setsRetry (firstAttempt cautiousSettings)
        (methodFromStr (literal "LOCK")) = true :=
  ⟨by decide, rfl, firstAttempt_under cautiousSettings, by decide⟩

theorem delete_never_retried :
    KeepsUnsafe (.enabled cautiousSettings) ∧ Grants (.enabled cautiousSettings) ∧
      ¬ SafeToken (literal "Delete") ∧
      ∀ ctx : RequestContext, ctx.Under (.enabled cautiousSettings) → ∀ call : HookCall,
        call.setsRetry ctx (methodFromStr (literal "Delete")) = false := by
  have grants : Grants (.enabled cautiousSettings) := by
    refine ⟨by decide, .connectError, ?_, ?_⟩ <;> decide
  have keeps : KeepsUnsafe (.enabled cautiousSettings) := rfl
  exact ⟨keeps, grants, by decide,
    (token_never_retried_iff keeps (literal "Delete")).mpr (.inl (by decide))⟩

end Pavis.Proxy
