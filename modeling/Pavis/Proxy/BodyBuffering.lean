/-
Reading the body of a request ahead of its first attempt.

A chunk is taken from the session before it is known whether it can be kept. When it
would go over the limit, or the shared budget refuses it, the loop ends and the chunk
is gone. What is kept waits for another attempt: no hook sends it, so the first
attempt has only what the session still holds.
-/

import Pavis.Proxy.RetryRuns

namespace Pavis.Proxy

open ByteText Config Upstream WordArith

def bodyOf (chunks : List (Bytes × Bool)) : Bytes := (chunks.map Prod.fst).flatten

theorem bodyOf_cons (chunk : Bytes) (granted : Bool) (rest : List (Bytes × Bool)) :
    bodyOf ((chunk, granted) :: rest) = chunk ++ bodyOf rest := rfl

def unread (limit : Nat) : List (Bytes × Bool) → Bytes → BudgetGuard → List (Bytes × Bool)
  | [], _, _ => []
  | (chunk, granted) :: rest, bodyBytes, guard =>
    if bodyBytes.length + chunk.length > limit then rest
    else
      match guard.tryAdd granted chunk.length with
      | (_, false) => rest
      | (guard, true) => unread limit rest (bodyBytes ++ chunk) guard

/-- The budget is asked for every chunk that is not empty. -/
def AllGranted (chunks : List (Bytes × Bool)) : Prop :=
  ∀ entry ∈ chunks, entry.1 ≠ [] → entry.2 = true

theorem allGranted_cons {chunk : Bytes} {granted : Bool} {rest : List (Bytes × Bool)} :
    AllGranted ((chunk, granted) :: rest) ↔ (chunk ≠ [] → granted = true) ∧ AllGranted rest :=
  List.forall_mem_cons

private theorem tryAdd_eq (guard : BudgetGuard) (granted : Bool) (extra : Nat)
    (bounded : guard.bytes + extra < 2 ^ 64) :
    guard.tryAdd granted extra =
      if extra = 0 ∨ granted = true then ({ bytes := guard.bytes + extra }, true)
      else (guard, false) := by
  unfold BudgetGuard.tryAdd
  by_cases nothing : extra = 0
  · simp [nothing]
  · cases granted with
    | true =>
      have whole : saturatingAdd u64Max guard.bytes extra = guard.bytes + extra :=
        saturatingAdd_of_le (Nat.le_pred_of_lt bounded)
      simp only [if_neg nothing, if_true, whole, or_true]
    | false => simp [nothing]

/-- The loop ends with the whole body and its bytes accounted for, or with a chunk that
is neither kept nor left. -/
structure LoopEnd (limit : Nat) (bodyFails : Bool) (chunks : List (Bytes × Bool))
    (bodyBytes : Bytes) (loop : BufferLoop) (left : List (Bytes × Bool)) : Prop where
  whole : bodyBytes.length + (bodyOf chunks).length ≤ limit → AllGranted chunks →
    loop =
        { bodyBytes := bodyBytes ++ bodyOf chunks
          budgetGuard := { bytes := (bodyBytes ++ bodyOf chunks).length }
          ended := if bodyFails then .failed else .complete } ∧
      left = []
  cut : ¬ (bodyBytes.length + (bodyOf chunks).length ≤ limit ∧ AllGranted chunks) →
    (loop.ended = .truncated ∨ loop.ended = .budgetExhausted) ∧
      ∃ lost, lost ≠ [] ∧ bodyBytes ++ bodyOf chunks = loop.bodyBytes ++ lost ++ bodyOf left

section Loop

variable {limit : Nat} {bodyFails granted : Bool} {chunk bodyBytes : Bytes}
  {rest left : List (Bytes × Bool)}

theorem LoopEnd.nil (guard : BudgetGuard) (below : bodyBytes.length ≤ limit)
    (accounted : guard = { bytes := bodyBytes.length }) :
    LoopEnd limit bodyFails [] bodyBytes
      { bodyBytes := bodyBytes, budgetGuard := guard,
        ended := if bodyFails then .failed else .complete } [] := by
  constructor
  · intro _ _
    rw [accounted]
    simp [bodyOf]
  · intro cut
    refine absurd ⟨?_, fun entry member => (List.not_mem_nil member).elim⟩ cut
    simpa [bodyOf] using below

theorem LoopEnd.dropped {ended : BufferEnd} (guard : BudgetGuard) (present : chunk ≠ [])
    (stopped : ended = .truncated ∨ ended = .budgetExhausted)
    (unfit : bodyBytes.length + (bodyOf ((chunk, granted) :: rest)).length ≤ limit →
      ¬ AllGranted ((chunk, granted) :: rest)) :
    LoopEnd limit bodyFails ((chunk, granted) :: rest) bodyBytes
      { bodyBytes := bodyBytes, budgetGuard := guard, ended := ended } rest := by
  constructor
  · intro fits all
    exact absurd all (unfit fits)
  · intro _
    refine ⟨stopped, chunk, present, ?_⟩
    rw [bodyOf_cons, List.append_assoc]

theorem LoopEnd.added {loop : BufferLoop} (allowed : chunk.length = 0 ∨ granted = true)
    (ended : LoopEnd limit bodyFails rest (bodyBytes ++ chunk) loop left) :
    LoopEnd limit bodyFails ((chunk, granted) :: rest) bodyBytes loop left := by
  have same : AllGranted ((chunk, granted) :: rest) ↔ AllGranted rest := by
    rw [allGranted_cons]
    refine ⟨And.right, fun others => ⟨fun present => ?_, others⟩⟩
    exact allowed.resolve_left fun empty => present (List.length_eq_zero_iff.1 empty)
  have longer : bodyBytes.length + (bodyOf ((chunk, granted) :: rest)).length =
      (bodyBytes ++ chunk).length + (bodyOf rest).length := by
    rw [bodyOf_cons, List.length_append, List.length_append, Nat.add_assoc]
  have joined : bodyBytes ++ bodyOf ((chunk, granted) :: rest) =
      bodyBytes ++ chunk ++ bodyOf rest := by
    rw [bodyOf_cons, List.append_assoc]
  constructor
  · rw [longer, same, joined]
    exact ended.whole
  · rw [longer, same, joined]
    exact ended.cut

end Loop

private theorem bufferLoop_end {limit : Nat} (bounded : limit < 2 ^ 64) (bodyFails : Bool)
    (chunks : List (Bytes × Bool)) (bodyBytes : Bytes) (guard : BudgetGuard)
    (below : bodyBytes.length ≤ limit) (accounted : guard = { bytes := bodyBytes.length }) :
    LoopEnd limit bodyFails chunks bodyBytes (bufferLoop limit bodyFails chunks bodyBytes guard)
      (unread limit chunks bodyBytes guard) := by
  induction chunks generalizing bodyBytes guard with
  | nil => exact .nil guard below accounted
  | cons entry rest ih =>
    obtain ⟨chunk, granted⟩ := entry
    unfold bufferLoop unread
    by_cases exceeds : bodyBytes.length + chunk.length > limit
    · rw [if_pos exceeds, if_pos exceeds]
      refine .dropped guard ?_ (.inl rfl) fun fits _ => ?_
      · rintro rfl
        rw [List.length_nil] at exceeds
        omega
      · rw [bodyOf_cons, List.length_append] at fits
        omega
    · rw [if_neg exceeds, if_neg exceeds]
      have added := tryAdd_eq guard granted chunk.length (by rw [accounted]; simp only; omega)
      rw [added]
      by_cases allowed : chunk.length = 0 ∨ granted = true
      · rw [if_pos allowed]
        refine .added allowed (ih (bodyBytes ++ chunk) _ ?_ ?_)
        · rw [List.length_append]
          omega
        · rw [accounted, List.length_append]
      · rw [if_neg allowed]
        obtain ⟨present, refused⟩ := not_or.1 allowed
        have nonempty : chunk ≠ [] := fun empty => present (List.length_eq_zero_iff.2 empty)
        refine .dropped guard nonempty (.inr rfl) fun _ all => ?_
        exact refused ((allGranted_cons.1 all).1 nonempty)

/-- The body is within the limit and the budget. -/
def Fits (limit : Nat) (chunks : List (Bytes × Bool)) : Prop :=
  (bodyOf chunks).length ≤ limit ∧ AllGranted chunks

theorem fits_of_bodyOf_eq_nil {limit : Nat} {chunks : List (Bytes × Bool)}
    (empty : bodyOf chunks = []) : Fits limit chunks := by
  refine ⟨by rw [empty]; exact Nat.zero_le _, fun entry member present => ?_⟩
  exact absurd (List.flatten_eq_nil_iff.1 empty _ (List.mem_map_of_mem member)) present

def leftUnread (settings : RetrySettings) (inputs : FilterInputs) : List (Bytes × Bool) :=
  unread settings.maxRequestBodyBufferBytes inputs.chunks [] .new

/-- The context after the filter, by how its loop ended. -/
inductive Prepared (settings : RetrySettings) (inputs : FilterInputs) (ctx : RequestContext) :
    RequestContext → Prop where
  | kept (retryCtx : RetryContext)
      (fits : Fits settings.maxRequestBodyBufferBytes inputs.chunks)
      (left : leftUnread settings inputs = []) :
      Prepared settings inputs ctx
        { ctx with
          retryCtx := some retryCtx
          bufferedBody := some (.new (bodyOf inputs.chunks) settings.maxRequestBodyBufferBytes
            false (some { bytes := (bodyOf inputs.chunks).length })) }
  | cut (retryCtx : RetryContext) (held lost : Bytes) (guard : BudgetGuard)
      (exceeds : ¬ Fits settings.maxRequestBodyBufferBytes inputs.chunks) (present : lost ≠ [])
      (parts : bodyOf inputs.chunks = held ++ lost ++ bodyOf (leftUnread settings inputs)) :
      Prepared settings inputs ctx
        { ctx with
          retryCtx := some retryCtx
          bufferedBody := some (.new held settings.maxRequestBodyBufferBytes true (some guard)) }
  | refused (held lost : Bytes)
      (exceeds : ¬ Fits settings.maxRequestBodyBufferBytes inputs.chunks) (present : lost ≠ [])
      (parts : bodyOf inputs.chunks = held ++ lost ++ bodyOf (leftUnread settings inputs)) :
      Prepared settings inputs ctx ctx

theorem prepareRetry_prepared {route : Route} {inputs : FilterInputs} {ctx after : RequestContext}
    {settings : RetrySettings} (policy : ctx.retryPolicy = .enabled settings)
    (bounded : settings.maxRequestBodyBufferBytes < 2 ^ 64)
    (ran : prepareRetry route inputs ctx = .ok after) : Prepared settings inputs ctx after := by
  have ended := bufferLoop_end bounded inputs.bodyFails inputs.chunks [] .new (Nat.zero_le _) rfl
  unfold prepareRetry at ran
  rw [policy] at ran
  by_cases fits : Fits settings.maxRequestBodyBufferBytes inputs.chunks
  · obtain ⟨loop, left⟩ := ended.whole (by simpa using fits.1) fits.2
    simp only [loop, List.nil_append] at ran
    cases fails : inputs.bodyFails with
    | true =>
      rw [fails] at ran
      cases ran
    | false =>
      rw [fails, ← policy] at ran
      cases ran
      exact .kept _ fits left
  · obtain ⟨stopped, lost, present, parts⟩ := ended.cut (by simpa [Fits] using fits)
    rw [List.nil_append] at parts
    rcases stopped with truncated | exhausted
    · simp only [truncated, ← policy] at ran
      cases ran
      exact .cut _ _ lost _ fits present parts
    · simp only [exhausted] at ran
      cases ran
      exact .refused _ lost fits present parts

/-! ### Sending the body again -/

/-- Some hook answers with a retry that was not asked for by the error it was given. -/
def TreatsAsReplayable (ctx : RequestContext) : Prop :=
  (∃ method error now, error.retry = false ∧ (ctx.failToConnect method error now).2.retry = true) ∨
  (∃ method error clientReused retryBufferTruncated now,
    (ctx.errorWhileProxy method error clientReused retryBufferTruncated now).2.retry = true) ∨
  ∃ method status now, ∃ error ∈ (ctx.responseFilter method status now).2, error.retry = true

section Prepared

variable {settings : RetrySettings} {inputs : FilterInputs} {ctx after : RequestContext}

/-- What reading a body ahead should come to. The first attempt sends what is read from the
session. -/
structure BufferingSound (settings : RetrySettings) (inputs : FilterInputs)
    (after : RequestContext) : Prop where
  whole : ∀ body ∈ after.bufferedBody, body.canReplay = true →
    body.bytes = bodyOf inputs.chunks ∧
      body.bytes.length ≤ settings.maxRequestBodyBufferBytes ∧
      body.budgetGuard = some { bytes := body.bytes.length }
  barred : ¬ Fits settings.maxRequestBodyBufferBytes inputs.chunks → ¬ TreatsAsReplayable after
  atHand : bodyOf (leftUnread settings inputs) = bodyOf inputs.chunks

theorem Prepared.whole (prepared : Prepared settings inputs ctx after)
    (fresh : ctx.bufferedBody = none) {body : BufferedBody} (stored : body ∈ after.bufferedBody)
    (replays : body.canReplay = true) :
    body.bytes = bodyOf inputs.chunks ∧
      body.bytes.length ≤ settings.maxRequestBodyBufferBytes ∧
      body.budgetGuard = some { bytes := body.bytes.length } := by
  cases prepared with
  | kept retryCtx fits =>
    obtain rfl := Option.some.inj stored
    exact ⟨rfl, fits.1, rfl⟩
  | cut =>
    obtain rfl := Option.some.inj stored
    cases replays
  | refused =>
    rw [fresh] at stored
    cases stored

private theorem left_ne_of_lost {body held lost left : Bytes} (present : lost ≠ [])
    (parts : body = held ++ lost ++ left) : left ≠ body := by
  intro same
  have lengths := congrArg List.length parts
  have positive := List.length_pos_iff.2 present
  simp only [List.length_append, same] at lengths
  omega

theorem Prepared.left_eq_iff (prepared : Prepared settings inputs ctx after) :
    bodyOf (leftUnread settings inputs) = bodyOf inputs.chunks ↔ bodyOf inputs.chunks = [] := by
  cases prepared with
  | kept retryCtx _ left =>
    rw [left]
    exact eq_comm
  | cut retryCtx held lost guard exceeds present parts | refused held lost exceeds present parts =>
    constructor
    · intro same
      exact absurd same (left_ne_of_lost present parts)
    · intro empty
      exact absurd (fits_of_bodyOf_eq_nil empty) exceeds

end Prepared

/-- Reading ahead is sound for the empty body and for no other: what the loop reads is
not there for the first attempt, and a body beyond the limit or the budget has lost a
chunk besides. -/
theorem prepareRetry_sound_iff {route : Route} {inputs : FilterInputs}
    {ctx after : RequestContext} {settings : RetrySettings}
    (policy : ctx.retryPolicy = .enabled settings) (unbuffered : ctx.bufferedBody = none)
    (bounded : settings.maxRequestBodyBufferBytes < 2 ^ 64)
    (ran : prepareRetry route inputs ctx = .ok after) :
    BufferingSound settings inputs after ↔ bodyOf inputs.chunks = [] := by
  have prepared := prepareRetry_prepared policy bounded ran
  constructor
  · intro sound
    exact prepared.left_eq_iff.1 sound.atHand
  · intro empty
    refine ⟨?_, ?_, prepared.left_eq_iff.2 empty⟩
    · intro body stored replays
      exact prepared.whole unbuffered stored replays
    · intro exceeds
      exact absurd (fits_of_bodyOf_eq_nil empty) exceeds

def anyMethodTwice : RetrySettings := { twoAttempts with retryNonIdempotent := true }

def bufferingCtx : RequestContext :=
  { newRequestCtx with retryPolicy := .enabled anyMethodTwice }

def arriving (chunks : List (Bytes × Bool)) : FilterInputs := { plainInputs with chunks := chunks }

def prepared (chunks : List (Bytes × Bool)) : Except FilterError RequestContext :=
  prepareRetry (retryingRoute (.enabled anyMethodTwice)) (arriving chunks) bufferingCtx

theorem empty_chunk_sound :
    ∃ after, prepared [([], false)] = .ok after ∧ after.canReplay = true ∧
      BufferingSound anyMethodTwice (arriving [([], false)]) after := by
  have ran : ∃ after, prepared [([], false)] = .ok after ∧ after.canReplay = true := ⟨_, rfl, rfl⟩
  obtain ⟨after, ran, replays⟩ := ran
  exact ⟨after, ran, replays, (prepareRetry_sound_iff rfl rfl (by decide) ran).2 rfl⟩

def fourBytes : List (Bytes × Bool) := [([1, 2], true), ([3, 4], true)]

def sixBytes : List (Bytes × Bool) := [([1, 2], true), ([3, 4, 5], true), ([6], true)]

/-- A body of the length of the limit is kept for another attempt and gone for the first.
Of a longer one the chunk beyond the limit is gone for good, and a time-out of the
upstream leads to a second attempt although the body is marked. -/
theorem read_bytes_not_left :
    (∃ after, prepared fourBytes = .ok after ∧ after.canReplay = true ∧
      bodyOf (leftUnread anyMethodTwice (arriving fourBytes)) = [] ∧
      ¬ BufferingSound anyMethodTwice (arriving fourBytes) after) ∧
    ∃ after, prepared sixBytes = .ok after ∧ after.canReplay = false ∧
      (after.errorWhileProxy .post (plainError .readTimedout) false false 0).2.retry = true ∧
      (after.bufferedBody.map BufferedBody.bytes) = some [1, 2] ∧
      bodyOf (leftUnread anyMethodTwice (arriving sixBytes)) = [6] ∧
      ¬ BufferingSound anyMethodTwice (arriving sixBytes) after := by
  refine ⟨⟨_, rfl, rfl, rfl, fun sound => ?_⟩,
    ⟨_, rfl, rfl, by decide +kernel, rfl, rfl, fun sound => ?_⟩⟩
  · exact absurd sound.atHand (by decide)
  · exact absurd sound.atHand (by decide)

end Pavis.Proxy
