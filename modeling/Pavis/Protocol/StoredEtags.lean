/-
The entity tags the agent keeps and sends.

Nothing brings tags into the agent but the `ETag` headers it reads and the artifact
it boots from, so every tag that the driver ever holds is in the form the relay
reads back.
-/

import Pavis.Agent.HeldEtags
import Pavis.Library.DigitText
import Pavis.Protocol.EtagHeaders

namespace Pavis.Protocol

open ByteText DigitText LabelledRun Pavis.Agent Pavis.Pvs Pavis.Relay

/-- The parts of an HTTP response that a fetch looks at. Header values are
bytes, and reading the body can fail. -/
structure HttpReply where
  status : Nat
  etag : Option Text
  configVersion : Option Text
  configSize : Option Text
  body : Option Bytes
  deriving DecidableEq

inductive FetchError where
  | header (message : Text)
  | body
  deriving DecidableEq

def configVersionNew (number : Nat) : Option ConfigVersion :=
  if fits : number ≠ 0 ∧ number < 2 ^ 64 then some ⟨number, fits.1, fits.2⟩ else none

def parseConfigVersionHeader (value : Text) : Option ConfigVersion :=
  (parseU64 (Relay.trim value)).bind configVersionNew

def newArtifactReply (reply : HttpReply) : Except FetchError Agent.Response :=
  match reply.etag.bind Relay.visibleText with
  | none => .error (.header (literal "missing etag response header"))
  | some value =>
    match parseEtagHeader value with
    | .error message => .error (.header message)
    | .ok etag =>
      let configVersion :=
        (reply.configVersion.bind Relay.visibleText).bind parseConfigVersionHeader
      let configSize := (reply.configSize.bind Relay.visibleText).bind parseU64
      match reply.body with
      | none => .error .body
      | some bytes =>
        .ok (.newArtifact etag configVersion (configSize.or (some bytes.length)) bytes)

/-- There is no reply when the request could not be sent or answered. -/
def fetchOnce : Option HttpReply → Except FetchError Agent.Response
  | none => .ok .transientUnavailable
  | some reply =>
    if reply.status = 200 then newArtifactReply reply
    else if reply.status = 204 ∨ reply.status = 304 then .ok .noUpdate
    else if reply.status = 410 then .ok .needResync
    else .ok .transientUnavailable

def fetchEffect (reply : Option HttpReply) : Agent.Response :=
  match fetchOnce reply with
  | .ok response => response
  | .error _ => .transientUnavailable

def httpReply : Relay.Response → HttpReply
  | .ok etag size version body =>
    ⟨200, some etag, some (spell 10 version), some (spell 10 size), some body⟩
  | .noContent etag => ⟨204, some etag, none, none, some []⟩
  | .notModified etag => ⟨304, some etag, none, none, some []⟩
  | .unavailable => ⟨503, none, none, none, some []⟩
  | .badRequest message => ⟨400, none, none, none, some message⟩

theorem plain_of_isDigit : ∀ byte : UInt8, isDigit 10 byte = true →
    ((32 ≤ byte && byte < 127) || byte == 9) = true ∧ isBlankByte byte = false := by
  refine forall_byte ?_
  decide +kernel

private theorem visibleText_spell (number : Nat) :
    visibleText (spell 10 number) = some (spell 10 number) := by
  rw [visibleText, if_pos]
  rw [List.all_eq_true]
  intro byte listed
  exact (plain_of_isDigit byte (spell_digits (by decide) (by decide) number byte listed)).1

private theorem dropWhile_unblank {text : Text}
    (unblank : ∀ byte ∈ text, isBlankByte byte = false) : text.dropWhile isBlankByte = text := by
  cases text with
  | nil => rfl
  | cons byte =>
    rw [List.dropWhile_cons, unblank byte List.mem_cons_self]
    rfl

private theorem trim_spell (number : Nat) : Relay.trim (spell 10 number) = spell 10 number := by
  have unblank : ∀ byte ∈ spell 10 number, isBlankByte byte = false := by
    intro byte listed
    exact (plain_of_isDigit byte (spell_digits (by decide) (by decide) number byte listed)).2
  rw [Relay.trim, dropWhile_unblank unblank,
    dropWhile_unblank (fun byte listed => unblank byte (List.mem_reverse.mp listed)),
    List.reverse_reverse]

private theorem parseU64_spell {number : Nat} (below : number < 2 ^ 64) :
    parseU64 (spell 10 number) = some number := by
  have digits : (spell 10 number).all (isDigit 10) = true :=
    List.all_eq_true.mpr (spell_digits (by decide) (by decide) number)
  rw [parseU64_digits (spell_ne_nil 10 number) digits, valueOf_spell (by decide) (by decide),
    if_pos below]

/-- An artifact served under a canonical tag arrives with its tag, version,
size and bytes. -/
theorem served_artifact_received {snapshot : RelaySnapshot} {etag : Text}
    (canonical : CanonicalEtag etag) (version : snapshot.version < 2 ^ 64)
    (size : snapshot.artifact.bytes.length < 2 ^ 64) :
    fetchEffect (some (httpReply (build200 snapshot etag))) =
      .newArtifact etag (configVersionNew snapshot.version)
        (some snapshot.artifact.bytes.length) snapshot.artifact.bytes := by
  obtain ⟨digest, tag, same⟩ := canonical.strong
  have parsed := parseEtagHeader_of_strong tag
  rw [← same] at parsed
  simp only [fetchEffect, fetchOnce, httpReply, build200, newArtifactReply, if_true,
    Option.bind_some, tag.visible, parsed, visibleText_spell, parseConfigVersionHeader, trim_spell,
    parseU64_spell version, parseU64_spell size, Option.some_or]

private theorem canonical_of_newArtifactReply {reply : HttpReply} {response : Agent.Response}
    (fetched : newArtifactReply reply = .ok response) :
    ∀ etag ∈ response.etags, CanonicalEtag etag := by
  unfold newArtifactReply at fetched
  split at fetched
  · cases fetched
  · split at fetched
    · cases fetched
    · rename_i etag parsed
      dsimp only at fetched
      split at fetched
      · cases fetched
      · cases fetched
        intro listed member
        rw [Agent.Response.etags, List.mem_singleton] at member
        rw [member]
        exact canonical_of_parseEtagHeader parsed

private theorem canonical_of_fetchEffect (reply : Option HttpReply) :
    ∀ etag ∈ (fetchEffect reply).etags, CanonicalEtag etag := by
  intro etag member
  unfold fetchEffect at member
  split at member
  · rename_i response fetched
    unfold fetchOnce at fetched
    split at fetched
    · cases fetched
      cases member
    · split at fetched
      · exact canonical_of_newArtifactReply fetched etag member
      · split at fetched
        · cases fetched
          cases member
        · split at fetched
          all_goals
            cases fetched
            cases member
  · cases member

/-- The answers of the fetch tasks are those of `fetch_effect`. -/
def AnsweredByFetch (steps : List (Step Driver Action (Option Input))) : Prop :=
  ∀ step ∈ steps, ∀ handle response now, step.label = .taskEnds handle (some (response, now)) →
    ∃ reply, response = fetchEffect reply

theorem AnsweredByFetch.canonical {steps : List (Step Driver Action (Option Input))}
    (answered : AnsweredByFetch steps) :
    ∀ step ∈ steps, ∀ etag ∈ step.label.etags, CanonicalEtag etag := by
  intro step listed etag member
  cases label : step.label with
  | taskEnds handle result =>
    rw [label] at member
    cases result with
    | none => cases member
    | some answer =>
      obtain ⟨reply, same⟩ := answered step listed handle answer.1 answer.2 label
      change etag ∈ answer.1.etags at member
      rw [same] at member
      exact canonical_of_fetchEffect reply etag member
  | _ =>
    rw [label] at member
    cases member

/-- The relay's tag of an artifact is read by the runtime as the artifact's
checksum. The header the runtime sends for a tag that it holds, at any time of
any run from a checked artifact or from none, is read by the relay as that tag.
The relay reads a tag out of one strong tag of 64 digits, with blanks around it,
and out of no other header. -/
theorem etags_agree (primitives : Primitives)
    (digests : ∀ bytes, (primitives.sha256 bytes).length = 32) :
    (∀ bytes, parseEtagHeader (quoteEtag (etagFromChecksum (checksumForBytes primitives bytes))) =
      .ok (checksumForBytes primitives bytes)) ∧
    (∀ (lkg : Option Bytes) (now : Instant) (steps : List (Step Driver Action (Option Input))),
      IsRun Driver.step (Driver.start (lkg.map (checksumForBytes primitives)) now) steps →
      AnsweredByFetch steps →
      ∀ driver, Visits (Driver.start (lkg.map (checksumForBytes primitives)) now) steps driver →
        ∀ etag ∈ driver.etags, parseIfNoneMatch (some (ifNoneMatchHeader etag)) = some etag) ∧
    (∀ (header : Option Text) (etag : Text), parseIfNoneMatch header = some etag ↔
      ∃ value digest, header = some value ∧ OneStrongTag value digest ∧
        etag = literal "sha256:" ++ digest.map toAsciiLowercase) := by
  refine ⟨fun bytes => (canonical_checksumForBytes digests bytes).read_by_runtime, ?_, ?_⟩
  · intro lkg now steps isRun answered driver visits etag member
    have held : ∀ etag ∈ (Driver.start (lkg.map (checksumForBytes primitives)) now).etags,
        CanonicalEtag etag := by
      cases lkg with
      | none =>
        intro etag member
        cases member
      | some bytes =>
        intro etag member
        rw [List.mem_singleton.mp member]
        exact canonical_checksumForBytes digests bytes
    have canonical := etags_visited isRun CanonicalEtag held answered.canonical visits etag member
    exact canonical.read_by_relay
  · intro header etag
    cases header with
    | none =>
      constructor
      · intro parsed
        cases parsed
      · rintro ⟨_, _, impossible, _⟩
        cases impossible
    | some value =>
      rw [parseIfNoneMatch_eq_some_iff]
      constructor
      · rintro ⟨digest, tag⟩
        exact ⟨value, digest, rfl, tag⟩
      · rintro ⟨_, digest, same, tag⟩
        cases same
        exact ⟨digest, tag⟩

def otherEtag : Text := checksumForBytes tabulated otherArtifact

def firstReply : HttpReply :=
  { status := 200
    etag := some (quoteEtag (etagFromChecksum otherEtag))
    configVersion := none
    configSize := none
    body := some otherArtifact }

def secondFetch : List Action :=
  [.tick 0, .perform, .enterSelect, .taskEnds 0 (some (fetchEffect (some firstReply), 1)),
    .pollFetch 2, .tick 0, .verifyUpdate (some (literal "/run/lkg.tmp.pvs")) 3, .tick 0,
    .applyUpdate true 4, .tick 0, .perform]

def secondFetchStart : Driver := Driver.start (some (checksumForBytes tabulated smallArtifact)) 0

/-- The agent boots from one artifact and fetches another. The header of its second fetch
is read back by the relay. -/
theorem second_fetch_read_back :
    some otherEtag ∈ (final secondFetchStart
      (trace Driver.step secondFetchStart secondFetch)).tasks.map FetchTask.etag ∧
    parseIfNoneMatch (some (ifNoneMatchHeader otherEtag)) = some otherEtag := by
  refine ⟨by decide +kernel, (etags_agree tabulated length_tabulated).2.1 (some smallArtifact) 0 _
    (trace_isRun _ _ secondFetch) ?_ _ (visits_final _ _) otherEtag (by decide +kernel)⟩
  intro step listed handle response now label
  have member := label_of_mem_trace listed
  rw [label] at member
  simp only [secondFetch, List.mem_cons, reduceCtorEq, Action.taskEnds.injEq, Option.some.injEq,
    Prod.mk.injEq, false_or, or_false, List.not_mem_nil] at member
  exact ⟨some firstReply, member.2.1⟩

/-- Upper case digits are accepted and brought down. -/
theorem uppercase_header_accepted :
    parseIfNoneMatch (some (ifNoneMatchHeader
      (literal "sha256:" ++ List.replicate 64 (ascii 'A')))) =
      some (literal "sha256:" ++ List.replicate 64 (ascii 'a')) := by
  decide +kernel

end Pavis.Protocol
