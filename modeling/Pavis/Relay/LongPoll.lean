/-
The long poll of `get_config` against concurrent publishes.

One handler and any number of `publish` calls take turns, with the steps of each
cut where another can run.
-/

import Pavis.Library.LabelledRun
import Pavis.Relay.Publish

namespace Pavis.Relay

open ByteText LabelledRun

def isHexDigit (byte : UInt8) : Bool :=
  (48 ≤ byte && byte ≤ 57) || (65 ≤ byte && byte ≤ 70) || (97 ≤ byte && byte ≤ 102)

/-- A header value that is text: visible characters, spaces and tabs. -/
def visibleText (value : Text) : Option Text :=
  if value.all fun byte => (32 ≤ byte && byte < 127) || byte == 9 then some value else none

def isBlankByte (byte : UInt8) : Bool := byte == 32 || byte == 9

def trim (text : Text) : Text :=
  ((text.dropWhile isBlankByte).reverse.dropWhile isBlankByte).reverse

/-- The tag between the quotes, when the header is one strong tag. -/
def unquoteStrong (trimmed : Text) : Option Text :=
  if trimmed = literal "*" then none
  else if startsWith trimmed (literal "W/") || startsWith trimmed (literal "w/") then none
  else if contains trimmed (ascii ',') then none
  else if !startsWith trimmed [34] || !endsWith trimmed [34] || trimmed.length < 2 then none
  else
    let unquoted := (trimmed.take (trimmed.length - 1)).drop 1
    if contains unquoted 34 then none else some unquoted

def parseIfNoneMatch (header : Option Text) : Option Text := do
  let value ← header
  let text ← visibleText value
  let unquoted ← unquoteStrong (trim text)
  let hexPart ← stripPrefix unquoted (literal "sha256:")
  if hexPart.length ≠ 64 then none
  else if !hexPart.all isHexDigit then none
  else some (literal "sha256:" ++ hexPart.map toAsciiLowercase)

def etagFromChecksum (checksum : Text) : Text :=
  let normalized := checksum.map toAsciiLowercase
  if startsWith normalized (literal "sha256:") then normalized
  else literal "sha256:" ++ normalized

def quoteEtag (etag : Text) : Text := [34] ++ etag ++ [34]

theorem quoteEtag_injective {left right : Text} (same : quoteEtag left = quoteEtag right) :
    left = right := by
  simpa [quoteEtag] using same

/-- The answers with the headers that depend on the request or the relay. -/
inductive Response where
  | ok (etag : Text) (size version : Nat) (body : Bytes)
  | noContent (etag : Text)
  | notModified (etag : Text)
  | unavailable
  | badRequest (message : Text)
  deriving DecidableEq

def build200 (snapshot : RelaySnapshot) (etag : Text) : Response :=
  .ok (quoteEtag etag) snapshot.artifact.bytes.length snapshot.version snapshot.artifact.bytes

def build204 (etag : Text) : Response := .noContent (quoteEtag etag)

def build304 (etag : Text) : Response := .notModified (quoteEtag etag)

def build400 (message : Text) : Response := .badRequest (message ++ [10])

structure ConfigRequest where
  clientEtag : Option Text
  waitMs : Nat
  deriving DecidableEq

/-- Where the handler is. In the loop it holds `current_etag`. -/
inductive Handler where
  | idle
  | arrived (request : ConfigRequest)
  | comparing (request : ConfigRequest) (snapshot : RelaySnapshot)
  | looping (request : ConfigRequest) (deadline : Nat) (currentEtag : Text)
  | registering (request : ConfigRequest) (deadline : Nat) (currentEtag : Text) (remaining : Nat)
  | waiting (request : ConfigRequest) (deadline : Nat) (currentEtag : Text) (expires : Nat)
      (notified : Bool)
  | rereading (request : ConfigRequest) (deadline : Nat) (currentEtag : Text)
  | comparingAgain (request : ConfigRequest) (deadline : Nat) (currentEtag : Text)
      (snapshot : RelaySnapshot)
  | answered
  deriving DecidableEq

/-- `notify_waiters` marks the future of a registered handler. -/
def Handler.notifyWaiters : Handler → Handler
  | .waiting request deadline currentEtag expires _ =>
    .waiting request deadline currentEtag expires true
  | handler => handler

inductive PublishStage where
  | installed
  | recorded
  | notified
  deriving DecidableEq

/-- A `publish` call after it has replaced the snapshot. -/
structure Publishing where
  version : Nat
  artifact : RelayArtifact
  etagChanged : Bool
  stage : PublishStage
  deriving DecidableEq

/-- Calls in progress are named by a number of their own. -/
structure PollSystem where
  relay : RelayRuntimeState
  longPollEnabled : Bool
  clock : Nat
  handler : Handler
  publishers : Nat → Option Publishing

def PollSystem.start (relay : RelayRuntimeState) (longPollEnabled : Bool) (clock : Nat) :
    PollSystem :=
  { relay := relay
    longPollEnabled := longPollEnabled
    clock := clock
    handler := .idle
    publishers := fun _ => none }

inductive PollAction where
  | request (ifNoneMatch : Option Text) (waitMs : Option Nat)
  | poll
  | tick (elapsed : Nat)
  | publish (call : Nat) (version : Nat) (bytes : Bytes) (relayMeta : RelayMeta) (checksum : Text)
      (now : Nat)
  | resume (call : Nat)

inductive PollEvent where
  | silent
  | tookSnapshot
  | registered
  | responded (response : Response)
  | refused (reason : RelayError)
  | installed (call : Nat) (etagChanged : Bool)
  | notifiedWaiters (call : Nat)
  | completed (call : Nat)
  deriving DecidableEq

/-! ### Steps -/

def PollSystem.respond (system : PollSystem) (response : Response) : PollSystem × PollEvent :=
  ({ system with handler := .answered }, .responded response)

def PollSystem.goTo (system : PollSystem) (handler : Handler) (event : PollEvent) :
    PollSystem × PollEvent :=
  ({ system with handler := handler }, event)

def PollSystem.accept (system : PollSystem) (ifNoneMatch : Option Text) (waitMs : Option Nat) :
    PollSystem × PollEvent :=
  if !system.relay.ready then system.respond .unavailable
  else if waitMs.getD 0 > 60000 then
    system.respond (build400 (literal "wait_ms must be in range 0..=60000 (milliseconds)"))
  else
    system.goTo
      (.arrived { clientEtag := parseIfNoneMatch ifNoneMatch, waitMs := waitMs.getD 0 }) .silent

/-- What follows the first snapshot, up to the loop. -/
def PollSystem.compare (system : PollSystem) (request : ConfigRequest)
    (snapshot : RelaySnapshot) : PollSystem × PollEvent :=
  let currentEtag := etagFromChecksum snapshot.artifactChecksum
  if request.clientEtag.any fun etag => etag != currentEtag then
    system.respond (build200 snapshot currentEtag)
  else if request.clientEtag.isNone ∧ request.waitMs > 0 then
    system.respond (build200 snapshot currentEtag)
  else if request.waitMs > 0 ∧ system.longPollEnabled then
    system.goTo (.looping request (system.clock + request.waitMs) currentEtag) .silent
  else if request.clientEtag = some currentEtag then
    system.respond (build304 currentEtag)
  else system.respond (build200 snapshot currentEtag)

/-- The next step of the handler. A wait is refused as long as neither the
notification nor the timeout has come; the notification is looked at first. -/
def PollSystem.poll (system : PollSystem) : Option (PollSystem × PollEvent) :=
  match system.handler with
  | .idle => none
  | .arrived request =>
    some (system.goTo (.comparing request system.relay.inner) .tookSnapshot)
  | .comparing request snapshot => some (system.compare request snapshot)
  | .looping request deadline currentEtag =>
    let remaining := deadline - system.clock
    if remaining = 0 then some (system.respond (build204 currentEtag))
    else some (system.goTo (.registering request deadline currentEtag remaining) .silent)
  | .registering request deadline currentEtag remaining =>
    some (system.goTo
      (.waiting request deadline currentEtag (system.clock + remaining) false) .registered)
  | .waiting request deadline currentEtag expires notified =>
    if notified then some (system.goTo (.rereading request deadline currentEtag) .silent)
    else if expires ≤ system.clock then some (system.respond (build204 currentEtag))
    else none
  | .rereading request deadline currentEtag =>
    some (system.goTo (.comparingAgain request deadline currentEtag system.relay.inner)
      .tookSnapshot)
  | .comparingAgain request deadline currentEtag snapshot =>
    let newEtag := etagFromChecksum snapshot.artifactChecksum
    if newEtag ≠ currentEtag then some (system.respond (build200 snapshot newEtag))
    else some (system.goTo (.looping request deadline newEtag) .silent)
  | .answered => none

/-- The part of `publish` under the write lock of the snapshot. -/
def PollSystem.publish (system : PollSystem) (call version : Nat) (bytes : Bytes)
    (relayMeta : RelayMeta) (checksum : Text) (now : Nat) : PollSystem × PollEvent :=
  match system.relay.enforceLimits bytes.length with
  | .error reason => (system, .refused reason)
  | .ok () =>
    match executePlan system.relay.inner.version version with
    | .error reason => (system, .refused reason)
    | .ok () =>
      let artifact := relayArtifact bytes relayMeta now
      let etagChanged := system.relay.inner.artifactChecksum != checksum
      let publishing : Publishing :=
        { version := version
          artifact := artifact
          etagChanged := etagChanged
          stage := .installed }
      ({ system with
         relay := system.relay.install version artifact checksum now
         publishers := Function.update system.publishers call (some publishing) },
        .installed call etagChanged)

def PollSystem.resume (system : PollSystem) (call : Nat) (publishing : Publishing) :
    PollSystem × PollEvent :=
  let moveTo (stage : PublishStage) : Nat → Option Publishing :=
    Function.update system.publishers call (some { publishing with stage := stage })
  match publishing.stage with
  | .installed =>
    ({ system with
       relay := system.relay.record publishing.version publishing.artifact
       publishers := moveTo .recorded }, .silent)
  | .recorded =>
    if publishing.etagChanged then
      ({ system with
         handler := system.handler.notifyWaiters
         publishers := moveTo .notified }, .notifiedWaiters call)
    else ({ system with publishers := moveTo .notified }, .silent)
  | .notified =>
    ({ system with
       relay := system.relay.markReady
       publishers := Function.update system.publishers call none }, .completed call)

def PollSystem.step : Machine PollSystem PollAction PollEvent := fun system action =>
  match action with
  | .request ifNoneMatch waitMs =>
    match system.handler with
    | .idle => some (system.accept ifNoneMatch waitMs)
    | _ => none
  | .poll => system.poll
  | .tick elapsed => some ({ system with clock := system.clock + elapsed }, .silent)
  | .publish call version bytes relayMeta checksum now =>
    match system.publishers call with
    | none => some (system.publish call version bytes relayMeta checksum now)
    | some _ => none
  | .resume call => (system.publishers call).map (system.resume call)

inductive HandlerStep (system : PollSystem) : Handler → PollEvent → Prop where
  | refuses {response : Response} (idle : system.handler = .idle)
      (other : ∀ etag, response ≠ build204 etag ∧ response ≠ build304 etag) :
      HandlerStep system .answered (.responded response)
  | arrives {request : ConfigRequest} (idle : system.handler = .idle) :
      HandlerStep system (.arrived request) .silent
  | reads {request : ConfigRequest} (arrived : system.handler = .arrived request) :
      HandlerStep system (.comparing request system.relay.inner) .tookSnapshot
  | sends {request : ConfigRequest} {snapshot : RelaySnapshot} (etag : Text)
      (comparing : system.handler = .comparing request snapshot) :
      HandlerStep system .answered (.responded (build200 snapshot etag))
  | notModified {request : ConfigRequest} {snapshot : RelaySnapshot}
      (comparing : system.handler = .comparing request snapshot)
      (agrees : request.clientEtag = some (etagFromChecksum snapshot.artifactChecksum)) :
      HandlerStep system .answered
        (.responded (build304 (etagFromChecksum snapshot.artifactChecksum)))
  | enters {request : ConfigRequest} {snapshot : RelaySnapshot} (deadline : Nat)
      (comparing : system.handler = .comparing request snapshot)
      (agrees : request.clientEtag = some (etagFromChecksum snapshot.artifactChecksum)) :
      HandlerStep system (.looping request deadline (etagFromChecksum snapshot.artifactChecksum))
        .silent
  | outOfTime {request : ConfigRequest} {deadline : Nat} {currentEtag : Text}
      (looping : system.handler = .looping request deadline currentEtag) :
      HandlerStep system .answered (.responded (build204 currentEtag))
  | proceeds {request : ConfigRequest} {deadline : Nat} {currentEtag : Text} (remaining : Nat)
      (looping : system.handler = .looping request deadline currentEtag) :
      HandlerStep system (.registering request deadline currentEtag remaining) .silent
  | registers {request : ConfigRequest} {deadline : Nat} {currentEtag : Text} {remaining : Nat}
      (expires : Nat)
      (registering : system.handler = .registering request deadline currentEtag remaining) :
      HandlerStep system (.waiting request deadline currentEtag expires false) .registered
  | wakes {request : ConfigRequest} {deadline expires : Nat} {currentEtag : Text}
      (waiting : system.handler = .waiting request deadline currentEtag expires true) :
      HandlerStep system (.rereading request deadline currentEtag) .silent
  | timesOut {request : ConfigRequest} {deadline expires : Nat} {currentEtag : Text}
      (waiting : system.handler = .waiting request deadline currentEtag expires false)
      (expired : expires ≤ system.clock) :
      HandlerStep system .answered (.responded (build204 currentEtag))
  | rereads {request : ConfigRequest} {deadline : Nat} {currentEtag : Text}
      (rereading : system.handler = .rereading request deadline currentEtag) :
      HandlerStep system (.comparingAgain request deadline currentEtag system.relay.inner)
        .tookSnapshot
  | sendsNew {request : ConfigRequest} {deadline : Nat} {currentEtag : Text}
      {snapshot : RelaySnapshot} (etag : Text)
      (comparing : system.handler = .comparingAgain request deadline currentEtag snapshot) :
      HandlerStep system .answered (.responded (build200 snapshot etag))
  | loops {request : ConfigRequest} {deadline : Nat} {currentEtag : Text}
      {snapshot : RelaySnapshot}
      (comparing : system.handler = .comparingAgain request deadline currentEtag snapshot)
      (same : etagFromChecksum snapshot.artifactChecksum = currentEtag) :
      HandlerStep system (.looping request deadline currentEtag) .silent

/-- The steps of the call named `call`, from what it and the relay were to what they become. -/
inductive PublisherStep (call : Nat) (relay next : RelayRuntimeState) :
    Option Publishing → Option Publishing → PollEvent → Prop where
  | installs (publishing : Publishing) (stage : publishing.stage = .installed)
      (grows : relay.inner.version < publishing.version) (checksum : Text) (now : Nat)
      (relayAt : next = relay.install publishing.version publishing.artifact checksum now) :
      PublisherStep call relay next none (some publishing)
        (.installed call publishing.etagChanged)
  | records (publishing : Publishing) (stage : publishing.stage = .installed)
      (relayAt : next = relay.record publishing.version publishing.artifact) :
      PublisherStep call relay next (some publishing)
        (some { publishing with stage := .recorded }) .silent
  | notifies (publishing : Publishing) (stage : publishing.stage = .recorded)
      (changed : publishing.etagChanged = true) (relayAt : next = relay) :
      PublisherStep call relay next (some publishing)
        (some { publishing with stage := .notified }) (.notifiedWaiters call)
  | skips (publishing : Publishing) (stage : publishing.stage = .recorded)
      (unchanged : publishing.etagChanged = false) (relayAt : next = relay) :
      PublisherStep call relay next (some publishing)
        (some { publishing with stage := .notified }) .silent
  | completes (publishing : Publishing) (stage : publishing.stage = .notified)
      (relayAt : next = relay.markReady) :
      PublisherStep call relay next (some publishing) none (.completed call)

def PollEvent.notifies : PollEvent → Bool
  | .notifiedWaiters _ => true
  | _ => false

/-- A step is one of the handler, one of a publisher, or neither. -/
inductive Polled (before after : PollSystem) (event : PollEvent) : Prop where
  | handler (steps : HandlerStep before after.handler event)
      (same : after = { before with handler := after.handler })
  | publisher (call : Nat) (publishing : Option Publishing)
      (steps : PublisherStep call before.relay after.relay (before.publishers call) publishing
        event)
      (publishers : after.publishers = Function.update before.publishers call publishing)
      (handlerAt : after.handler =
        if event.notifies then before.handler.notifyWaiters else before.handler)
  | other (handlerAt : after.handler = before.handler)
      (publishers : after.publishers = before.publishers)
      (quiet : event = .silent ∨ ∃ reason, event = .refused reason)
      (relayAt : after.relay = before.relay)

variable {system : PollSystem} {call : Nat}

theorem PollSystem.accept_polled (idle : system.handler = .idle) (ifNoneMatch : Option Text)
    (waitMs : Option Nat) :
    Polled system (system.accept ifNoneMatch waitMs).1
      (system.accept ifNoneMatch waitMs).2 := by
  unfold accept
  split
  · exact .handler (.refuses idle fun _ => ⟨by simp [build204], by simp [build304]⟩) rfl
  · split
    · exact .handler
        (.refuses idle fun _ => ⟨by simp [build204, build400], by simp [build304, build400]⟩) rfl
    · exact .handler (.arrives idle) rfl

theorem PollSystem.compare_polled {request : ConfigRequest} {snapshot : RelaySnapshot}
    (comparing : system.handler = .comparing request snapshot) :
    Polled system (system.compare request snapshot).1 (system.compare request snapshot).2 := by
  unfold compare
  cases client : request.clientEtag with
  | none =>
    simp only [Option.any_none, Bool.false_eq_true, if_false, Option.isNone_none, true_and]
    split
    · exact .handler (.sends _ comparing) rfl
    · rename_i impatient
      rw [if_neg (fun waits => impatient waits.1), if_neg (by simp)]
      exact .handler (.sends _ comparing) rfl
  | some =>
    simp only [Option.any_some, bne_iff_ne, ne_eq, ite_not, Option.isNone_some,
      Bool.false_eq_true, false_and, if_false, Option.some.injEq]
    split
    · rename_i same
      rw [same] at client
      split
      · exact .handler (.enters _ comparing client) rfl
      · exact .handler (.notModified comparing client) rfl
    · exact .handler (.sends _ comparing) rfl

theorem PollSystem.poll_polled {before after : PollSystem} {event : PollEvent}
    (accepted : before.poll = some (after, event)) : Polled before after event := by
  unfold poll at accepted
  cases handlerAt : before.handler with
  | idle | answered =>
    rw [handlerAt] at accepted
    cases accepted
  | arrived =>
    rw [handlerAt] at accepted
    cases accepted
    exact .handler (.reads handlerAt) rfl
  | comparing =>
    rw [handlerAt] at accepted
    have compared := compare_polled handlerAt
    simp only [Option.some.injEq] at accepted
    rw [accepted] at compared
    exact compared
  | looping =>
    rw [handlerAt] at accepted
    simp only at accepted
    split at accepted
    · cases accepted
      exact .handler (.outOfTime handlerAt) rfl
    · cases accepted
      exact .handler (.proceeds _ handlerAt) rfl
  | registering =>
    rw [handlerAt] at accepted
    cases accepted
    exact .handler (.registers _ handlerAt) rfl
  | waiting request deadline currentEtag expires notified =>
    rw [handlerAt] at accepted
    simp only at accepted
    cases notified with
    | true =>
      cases accepted
      exact .handler (.wakes handlerAt) rfl
    | false =>
      simp only [Bool.false_eq_true, if_false] at accepted
      split at accepted
      · rename_i expired
        cases accepted
        exact .handler (.timesOut handlerAt expired) rfl
      · cases accepted
  | rereading =>
    rw [handlerAt] at accepted
    cases accepted
    exact .handler (.rereads handlerAt) rfl
  | comparingAgain =>
    rw [handlerAt] at accepted
    simp only at accepted
    split at accepted
    · cases accepted
      exact .handler (.sendsNew _ handlerAt) rfl
    · rename_i unchanged
      have same := not_not.mp unchanged
      rw [same] at accepted
      cases accepted
      exact .handler (.loops handlerAt same) rfl

theorem executePlan_ok {current proposed : Nat} (planned : executePlan current proposed = .ok ()) :
    current < proposed := by
  unfold executePlan at planned
  split at planned
  · cases planned
  · omega

theorem PollSystem.publish_polled (free : system.publishers call = none) (version : Nat)
    (bytes : Bytes) (relayMeta : RelayMeta) (checksum : Text) (now : Nat) :
    Polled system (system.publish call version bytes relayMeta checksum now).1
      (system.publish call version bytes relayMeta checksum now).2 := by
  unfold publish
  split
  · rename_i reason _
    exact .other rfl rfl (.inr ⟨reason, rfl⟩) rfl
  · split
    · rename_i reason _
      exact .other rfl rfl (.inr ⟨reason, rfl⟩) rfl
    · rename_i planned
      refine .publisher call _ ?_ rfl rfl
      rw [free]
      exact .installs _ rfl (executePlan_ok planned) _ _ rfl

theorem PollSystem.resume_polled {publishing : Publishing}
    (found : system.publishers call = some publishing) :
    Polled system (system.resume call publishing).1 (system.resume call publishing).2 := by
  obtain ⟨version, artifact, etagChanged, stage⟩ := publishing
  cases stage with
  | installed =>
    refine .publisher call _ ?_ rfl rfl
    rw [found]
    exact .records _ rfl rfl
  | recorded =>
    cases etagChanged with
    | true =>
      refine .publisher call _ ?_ rfl rfl
      rw [found]
      exact .notifies _ rfl rfl rfl
    | false =>
      refine .publisher call _ ?_ rfl rfl
      rw [found]
      exact .skips _ rfl rfl rfl
  | notified =>
    refine .publisher call _ ?_ rfl rfl
    rw [found]
    exact .completes _ rfl rfl

theorem PollSystem.polled_of_accepted {step : Step PollSystem PollAction PollEvent}
    (accepted : step.Accepted PollSystem.step) : Polled step.before step.after step.output := by
  obtain ⟨before, label, after, event⟩ := step
  change PollSystem.step before label = some (after, event) at accepted
  change Polled before after event
  unfold PollSystem.step at accepted
  cases label with
  | request ifNoneMatch waitMs =>
    cases handlerAt : before.handler with
    | idle =>
      have moved := PollSystem.accept_polled handlerAt ifNoneMatch waitMs
      simp only [handlerAt, Option.some.injEq] at accepted
      rw [accepted] at moved
      exact moved
    | _ => simp [handlerAt] at accepted
  | poll => exact PollSystem.poll_polled accepted
  | tick =>
    cases accepted
    exact .other rfl rfl (.inl rfl) rfl
  | publish call version bytes relayMeta checksum now =>
    cases free : before.publishers call with
    | none =>
      have moved := PollSystem.publish_polled free version bytes relayMeta checksum now
      simp only [free, Option.some.injEq] at accepted
      rw [accepted] at moved
      exact moved
    | some => simp [free] at accepted
  | resume call =>
    cases found : before.publishers call with
    | none => simp [found] at accepted
    | some =>
      have moved := PollSystem.resume_polled found
      simp only [found, Option.map_some, Option.some.injEq] at accepted
      rw [accepted] at moved
      exact moved

end Pavis.Relay
