/-
The ingest pipeline of the relay.

Artifacts are taken from the stream in order and handled side by side, up to a
limit. Publishes exclude one another by the publish lock, so an attempt is one step.
-/

import Pavis.Library.LabelledRun
import Pavis.Relay.CrashRecovery

namespace Pavis.Relay

open ByteText FaultyDisk LabelledRun Pavis.Pvs

/-- The longest duration, in nanoseconds. -/
def maxDuration : Nat := 2 ^ 64 * 1000000000 - 1

structure RetryPolicy where
  maxAttempts : Nat
  baseDelay : Nat
  maxDelay : Nat

structure PipelineOptions where
  maxInFlight : Nat
  publishRetry : RetryPolicy

def defaultMaxInFlight : Nat := 8

def PipelineOptions.capacity (options : PipelineOptions) : Nat := max options.maxInFlight 1

/-- What a codec makes of an artifact, and how a configuration is sealed. -/
structure PipelineCodec (α γ δ : Type) where
  materialize : α → Except δ γ
  encode : γ → Except PvsError Bytes

/-- How far the handling of an artifact has come. -/
inductive Handling (α γ ε : Type) where
  | received (item : Except ε α)
  | publishing (config : γ) (attempt delay : Nat)

structure InFlight (α γ ε : Type) where
  position : Nat
  handling : Handling α γ ε

/-- An artifact that was published, with the positions in flight at that moment. -/
structure Publication where
  position : Nat
  beside : List Nat
  deriving DecidableEq

/-- The artifacts published so far are listed in the order of their publishes. -/
structure Pipeline (α γ ε : Type) where
  relay : RelayRuntimeState
  pulled : Nat
  inFlight : List (InFlight α γ ε)
  published : List Publication

inductive PipelineAction where
  | pull
  | materialize (slot : Nat)
  | publish (slot : Nat) (plan : PublishPlan) (now installedAt : Nat)

inductive PipelineEvent where
  | silent
  | failed (position : Nat)
  | published (position version : Nat)
  deriving DecidableEq

namespace Pipeline

variable {α γ δ ε : Type}

def start (relay : RelayRuntimeState) : Pipeline α γ ε :=
  { relay := relay, pulled := 0, inFlight := [], published := [] }

def positions (pipeline : Pipeline α γ ε) : List Nat := pipeline.inFlight.map InFlight.position

def Handled (stream : List (Except ε α)) (pipeline : Pipeline α γ ε) : Prop :=
  pipeline.pulled = stream.length ∧ pipeline.inFlight = []

section
variable (codec : PipelineCodec α γ δ) (options : PipelineOptions) (serde : Serde)
  (primitives : Primitives) (stream : List (Except ε α))

def publishConfig (plan : PublishPlan) (config : γ) (now installedAt : Nat)
    (relay : RelayRuntimeState) : Result RelayRuntimeState RelayError Nat :=
  match codec.encode config with
  | .error reason => .error relay (.config reason)
  | .ok bytes =>
    (relay.publishBytes serde primitives plan bytes now installedAt).andThen
      fun relay metadata => .ok relay metadata.version

def complete (pipeline : Pipeline α γ ε) (slot : Nat) : Pipeline α γ ε :=
  { pipeline with inFlight := pipeline.inFlight.eraseIdx slot }

def advance (pipeline : Pipeline α γ ε) (slot position : Nat) (handling : Handling α γ ε) :
    Pipeline α γ ε :=
  { pipeline with
    inFlight := pipeline.inFlight.set slot { position := position, handling := handling } }

def materializeStep (pipeline : Pipeline α γ ε) (slot position : Nat) (item : Except ε α) :
    Pipeline α γ ε × PipelineEvent :=
  match item with
  | .error _ => (pipeline.complete slot, .failed position)
  | .ok artifact =>
    match codec.materialize artifact with
    | .error _ => (pipeline.complete slot, .failed position)
    | .ok config =>
      (pipeline.advance slot position (.publishing config 0 options.publishRetry.baseDelay),
        .silent)

/-- One round of the retry loop. -/
def publishStep (pipeline : Pipeline α γ ε) (slot position : Nat) (config : γ)
    (attempt delay : Nat) (result : Result RelayRuntimeState RelayError Nat) :
    Option (Pipeline α γ ε × PipelineEvent) :=
  let attempt := (attempt + 1) % 2 ^ 32
  match result with
  | .crashed _ => none
  | .ok relay version =>
    some
      ({ pipeline.complete slot with
          relay := relay
          published := pipeline.published ++
            [{ position := position, beside := pipeline.positions }] },
        .published position version)
  | .error relay _ =>
    if attempt ≤ options.publishRetry.maxAttempts then
      let delay := min (min (delay * 2) maxDuration) options.publishRetry.maxDelay
      some
        ({ pipeline.advance slot position (.publishing config attempt delay) with
            relay := relay },
          .silent)
    else some ({ pipeline.complete slot with relay := relay }, .failed position)

def step : Machine (Pipeline α γ ε) PipelineAction PipelineEvent := fun pipeline action =>
  match action with
  | .pull =>
    if pipeline.inFlight.length < options.capacity then
      stream[pipeline.pulled]?.map fun item =>
        ({ pipeline with
            pulled := pipeline.pulled + 1
            inFlight := pipeline.inFlight ++
              [{ position := pipeline.pulled, handling := .received item }] },
          .silent)
    else none
  | .materialize slot =>
    match pipeline.inFlight[slot]? with
    | some ⟨position, .received item⟩ =>
      some (pipeline.materializeStep codec options slot position item)
    | _ => none
  | .publish slot plan now installedAt =>
    match pipeline.inFlight[slot]? with
    | some ⟨position, .publishing config attempt delay⟩ =>
      pipeline.publishStep options slot position config attempt delay
        (publishConfig codec serde primitives plan config now installedAt pipeline.relay)
    | _ => none

end

end Pipeline

/-! ### What a step can do -/

section

variable {α γ δ ε : Type} (codec : PipelineCodec α γ δ) (stream : List (Except ε α))

def sealedAt (position : Nat) : Option Bytes :=
  match stream[position]? with
  | some (.ok artifact) =>
    match codec.materialize artifact with
    | .ok config => (codec.encode config).toOption
    | .error _ => none
  | _ => none

/-- The handling of a position is about the artifact there. -/
def InFlight.Sound (flight : InFlight α γ ε) : Prop :=
  match flight.handling with
  | .received item => stream[flight.position]? = some item
  | .publishing config _ _ =>
    ∃ artifact, stream[flight.position]? = some (.ok artifact) ∧
      codec.materialize artifact = .ok config

variable {config : γ}

private theorem sealedAt_of_sound {flight : InFlight α γ ε} (sound : flight.Sound codec stream)
    {attempt delay : Nat} (publishing : flight.handling = .publishing config attempt delay)
    {bytes : Bytes} (sealed : codec.encode config = .ok bytes) :
    sealedAt codec stream flight.position = some bytes := by
  unfold InFlight.Sound at sound
  rw [publishing] at sound
  obtain ⟨artifact, listed, materialized⟩ := sound
  simp only [sealedAt, listed, materialized, sealed, Except.toOption]

/-- A pull, an artifact that leaves without a publish, one that moves on, or a
publish. Only a publish changes the snapshot. -/
inductive Pipeline.Moves (capacity : Nat) (before : Pipeline α γ ε) : Pipeline α γ ε → Prop where
  | pulls {after : Pipeline α γ ε} (item : Except ε α)
      (room : before.inFlight.length < capacity)
      (listed : stream[before.pulled]? = some item) (inner : after.relay.inner = before.relay.inner)
      (pulled : after.pulled = before.pulled + 1)
      (inFlight : after.inFlight = before.inFlight ++
        [{ position := before.pulled, handling := .received item }])
      (published : after.published = before.published) : before.Moves capacity after
  | leaves {after : Pipeline α γ ε} (slot : Nat) (inner : after.relay.inner = before.relay.inner)
      (pulled : after.pulled = before.pulled)
      (inFlight : after.inFlight = before.inFlight.eraseIdx slot)
      (published : after.published = before.published) : before.Moves capacity after
  | advances {after : Pipeline α γ ε} (slot : Nat) (flight moved : InFlight α γ ε)
      (found : before.inFlight[slot]? = some flight) (position : moved.position = flight.position)
      (sound : flight.Sound codec stream → moved.Sound codec stream)
      (inner : after.relay.inner = before.relay.inner) (pulled : after.pulled = before.pulled)
      (inFlight : after.inFlight = before.inFlight.set slot moved)
      (published : after.published = before.published) : before.Moves capacity after
  | publishes {after : Pipeline α γ ε} (slot : Nat) (flight : InFlight α γ ε)
      (found : before.inFlight[slot]? = some flight)
      (installed : flight.Sound codec stream →
        sealedAt codec stream flight.position = some after.relay.inner.artifact.bytes)
      (pulled : after.pulled = before.pulled)
      (inFlight : after.inFlight = before.inFlight.eraseIdx slot)
      (published : after.published = before.published ++
        [{ position := flight.position, beside := before.positions }]) : before.Moves capacity after

variable {codec stream} {options : PipelineOptions} {serde : Serde} {primitives : Primitives}

theorem Pipeline.materializeStep_moves {before : Pipeline α γ ε} {slot position : Nat}
    {item : Except ε α} (found : before.inFlight[slot]? = some ⟨position, .received item⟩) :
    before.Moves codec stream options.capacity
      (before.materializeStep codec options slot position item).1 := by
  unfold materializeStep
  split
  · exact .leaves slot rfl rfl rfl rfl
  · rename_i artifact
    split
    · exact .leaves slot rfl rfl rfl rfl
    · rename_i config materialized
      refine .advances slot _ _ found ?_ ?_ rfl rfl rfl rfl
      · rfl
      · intro sound
        exact ⟨artifact, sound, materialized⟩

variable {plan : PublishPlan} {now installedAt : Nat}

theorem Pipeline.publishConfig_error {relay after : RelayRuntimeState} {reason : RelayError}
    (fails : publishConfig codec serde primitives plan config now installedAt relay =
      .error after reason) : after.inner = relay.inner := by
  unfold publishConfig at fails
  split at fails
  · cases fails
    rfl
  · rcases Result.andThen_eq_error.mp fails with published | ⟨_, _, _, finished⟩
    · exact RelayRuntimeState.publishBytes_error_inner published
    · cases finished

theorem Pipeline.publishConfig_ok {relay after : RelayRuntimeState} {version : Nat}
    (succeeds : publishConfig codec serde primitives plan config now installedAt relay =
      .ok after version) : codec.encode config = .ok after.inner.artifact.bytes := by
  unfold publishConfig at succeeds
  split at succeeds
  · cases succeeds
  · rename_i bytes sealed
    obtain ⟨_, _, published, finished⟩ := Result.andThen_eq_ok.mp succeeds
    cases finished
    rw [sealed, RelayRuntimeState.publishBytes_ok_bytes published]

theorem Pipeline.publishStep_moves {before after : Pipeline α γ ε} {slot position : Nat}
    {attempt delay : Nat} {event : PipelineEvent}
    (found : before.inFlight[slot]? = some ⟨position, .publishing config attempt delay⟩)
    (accepted : before.publishStep options slot position config attempt delay
      (publishConfig codec serde primitives plan config now installedAt before.relay) =
        some (after, event)) : before.Moves codec stream options.capacity after := by
  unfold publishStep at accepted
  dsimp only at accepted
  split at accepted
  · cases accepted
  · rename_i relay version succeeds
    cases accepted
    refine .publishes slot _ found ?_ rfl rfl rfl
    intro sound
    exact sealedAt_of_sound codec stream sound rfl (publishConfig_ok succeeds)
  · rename_i relay reason fails
    have inner := publishConfig_error fails
    split at accepted
    · cases accepted
      refine .advances slot _ _ found ?_ ?_ inner rfl rfl rfl
      · rfl
      · intro sound
        exact sound
    · cases accepted
      exact .leaves slot inner rfl rfl rfl

theorem Pipeline.moves_of_accepted {step : Step (Pipeline α γ ε) PipelineAction PipelineEvent}
    (accepted : step.Accepted (Pipeline.step codec options serde primitives stream)) :
    step.before.Moves codec stream options.capacity step.after := by
  obtain ⟨before, action, after, event⟩ := step
  change Pipeline.step codec options serde primitives stream before action =
    some (after, event) at accepted
  change before.Moves codec stream options.capacity after
  unfold Pipeline.step at accepted
  cases action with
  | pull =>
    dsimp only at accepted
    split at accepted
    · rename_i room
      obtain ⟨item, listed, same⟩ := Option.map_eq_some_iff.mp accepted
      cases same
      exact .pulls item room listed rfl rfl rfl rfl
    · cases accepted
  | materialize slot =>
    dsimp only at accepted
    split at accepted
    · rename_i position item found
      have same : (before.materializeStep codec options slot position item).1 = after :=
        congrArg Prod.fst (Option.some.inj accepted)
      rw [← same]
      exact materializeStep_moves found
    · cases accepted
  | publish =>
    dsimp only at accepted
    split at accepted
    · rename_i position config attempt delay found
      exact publishStep_moves found accepted
    · cases accepted

/-! ### Runs -/

/-- An artifact that is published, or still in flight, after one that follows it
in the stream was in flight when that one was published. -/
structure Pipeline.Consistent (codec : PipelineCodec α γ δ) (stream : List (Except ε α))
    (capacity : Nat) (initial : RelaySnapshot) (pipeline : Pipeline α γ ε) : Prop where
  sound : ∀ flight ∈ pipeline.inFlight, flight.Sound codec stream
  room : pipeline.inFlight.length ≤ capacity
  flightBelow : ∀ flight ∈ pipeline.inFlight, flight.position < pipeline.pulled
  publishedBelow : ∀ publication ∈ pipeline.published, publication.position < pipeline.pulled
  beside : ∀ publication ∈ pipeline.published,
    publication.position ∈ publication.beside ∧ publication.beside.length ≤ capacity
  overtaken : ∀ publication ∈ pipeline.published, ∀ flight ∈ pipeline.inFlight,
    flight.position < publication.position → flight.position ∈ publication.beside
  ordered : pipeline.published.Pairwise fun earlier later =>
    later.position < earlier.position → later.position ∈ earlier.beside
  current : match pipeline.published.getLast? with
    | none => pipeline.relay.inner = initial
    | some last =>
      sealedAt codec stream last.position = some pipeline.relay.inner.artifact.bytes

namespace Pipeline

variable {capacity : Nat} {initial : RelaySnapshot}

private theorem consistent_start (relay : RelayRuntimeState) :
    (start relay : Pipeline α γ ε).Consistent codec stream capacity relay.inner := by
  constructor
  · intro flight member
    cases member
  · exact Nat.zero_le _
  · intro flight member
    cases member
  · intro publication member
    cases member
  · intro publication member
    cases member
  · intro publication member
    cases member
  · exact .nil
  · rfl

variable {before after : Pipeline α γ ε}

section

variable (consistent : before.Consistent codec stream capacity initial)

include consistent

theorem Consistent.pulls {item : Except ε α} (room : before.inFlight.length < capacity)
    (listed : stream[before.pulled]? = some item) (inner : after.relay.inner = before.relay.inner)
    (pulled : after.pulled = before.pulled + 1)
    (inFlight : after.inFlight = before.inFlight ++
      [{ position := before.pulled, handling := .received item }])
    (published : after.published = before.published) :
    after.Consistent codec stream capacity initial := by
  constructor
  · intro flight member
    rw [inFlight] at member
    rcases List.mem_append.mp member with earlier | new
    · exact consistent.sound flight earlier
    · cases List.mem_singleton.mp new
      exact listed
  · rw [inFlight, List.length_append, List.length_singleton]
    exact room
  · intro flight member
    rw [inFlight] at member
    rw [pulled]
    rcases List.mem_append.mp member with earlier | new
    · exact Nat.lt_succ_of_lt (consistent.flightBelow flight earlier)
    · cases List.mem_singleton.mp new
      exact Nat.lt_succ_self _
  · intro publication member
    rw [published] at member
    rw [pulled]
    exact Nat.lt_succ_of_lt (consistent.publishedBelow publication member)
  · rw [published]
    exact consistent.beside
  · intro publication member flight flightMember overtaken
    rw [published] at member
    rw [inFlight] at flightMember
    rcases List.mem_append.mp flightMember with earlier | new
    · exact consistent.overtaken publication member flight earlier overtaken
    · cases List.mem_singleton.mp new
      have below := consistent.publishedBelow publication member
      dsimp only at overtaken
      omega
  · rw [published]
    exact consistent.ordered
  · rw [published, inner]
    exact consistent.current

theorem Consistent.shrinks (sound : ∀ flight ∈ after.inFlight, flight.Sound codec stream)
    (length : after.inFlight.length ≤ before.inFlight.length)
    (positions : ∀ flight ∈ after.inFlight, ∃ other ∈ before.inFlight,
      other.position = flight.position) (inner : after.relay.inner = before.relay.inner)
    (pulled : after.pulled = before.pulled) (published : after.published = before.published) :
    after.Consistent codec stream capacity initial := by
  constructor
  · exact sound
  · exact Nat.le_trans length consistent.room
  · intro flight member
    obtain ⟨other, otherMember, same⟩ := positions flight member
    rw [← same, pulled]
    exact consistent.flightBelow other otherMember
  · rw [published, pulled]
    exact consistent.publishedBelow
  · rw [published]
    exact consistent.beside
  · intro publication member flight flightMember overtaken
    obtain ⟨other, otherMember, same⟩ := positions flight flightMember
    rw [published] at member
    rw [← same] at overtaken ⊢
    exact consistent.overtaken publication member other otherMember overtaken
  · rw [published]
    exact consistent.ordered
  · rw [published, inner]
    exact consistent.current

theorem Consistent.publishes {slot : Nat} {flight : InFlight α γ ε}
    (found : before.inFlight[slot]? = some flight)
    (installed : sealedAt codec stream flight.position = some after.relay.inner.artifact.bytes)
    (pulled : after.pulled = before.pulled)
    (inFlight : after.inFlight = before.inFlight.eraseIdx slot)
    (published : after.published = before.published ++
      [{ position := flight.position, beside := before.positions }]) :
    after.Consistent codec stream capacity initial := by
  have member := List.mem_of_getElem? found
  have remains : ∀ other ∈ after.inFlight, other ∈ before.inFlight := by
    intro other otherMember
    rw [inFlight] at otherMember
    exact List.mem_of_mem_eraseIdx otherMember
  have listed : ∀ other ∈ before.inFlight, other.position ∈ before.positions :=
    fun other otherMember => List.mem_map_of_mem otherMember
  constructor
  · intro other otherMember
    exact consistent.sound other (remains other otherMember)
  · rw [inFlight]
    exact Nat.le_trans (List.length_eraseIdx_le _ _) consistent.room
  · intro other otherMember
    rw [pulled]
    exact consistent.flightBelow other (remains other otherMember)
  · intro publication publicationMember
    rw [published] at publicationMember
    rw [pulled]
    rcases List.mem_append.mp publicationMember with earlier | new
    · exact consistent.publishedBelow publication earlier
    · cases List.mem_singleton.mp new
      exact consistent.flightBelow flight member
  · intro publication publicationMember
    rw [published] at publicationMember
    rcases List.mem_append.mp publicationMember with earlier | new
    · exact consistent.beside publication earlier
    · cases List.mem_singleton.mp new
      refine ⟨listed flight member, ?_⟩
      change (before.inFlight.map InFlight.position).length ≤ capacity
      rw [List.length_map]
      exact consistent.room
  · intro publication publicationMember other otherMember overtaken
    rw [published] at publicationMember
    rcases List.mem_append.mp publicationMember with earlier | new
    · exact consistent.overtaken publication earlier other (remains other otherMember) overtaken
    · cases List.mem_singleton.mp new
      exact listed other (remains other otherMember)
  · rw [published]
    apply List.pairwise_append.mpr
    refine ⟨consistent.ordered, List.pairwise_singleton _ _, ?_⟩
    intro earlier earlierMember later laterMember overtaken
    cases List.mem_singleton.mp laterMember
    exact consistent.overtaken earlier earlierMember flight member overtaken
  · rw [published, List.getLast?_append]
    exact installed

theorem Consistent.moves (moves : before.Moves codec stream capacity after) :
    after.Consistent codec stream capacity initial := by
  cases moves with
  | pulls item room listed inner pulled inFlight published =>
    exact consistent.pulls room listed inner pulled inFlight published
  | leaves slot inner pulled inFlight published =>
    have remains : ∀ flight ∈ after.inFlight, flight ∈ before.inFlight := by
      intro flight member
      rw [inFlight] at member
      exact List.mem_of_mem_eraseIdx member
    apply consistent.shrinks
    · intro flight member
      exact consistent.sound flight (remains flight member)
    · rw [inFlight]
      exact List.length_eraseIdx_le _ _
    · intro flight member
      exact ⟨flight, remains flight member, rfl⟩
    · exact inner
    · exact pulled
    · exact published
  | advances slot flight moved found position sound inner pulled inFlight published =>
    have member := List.mem_of_getElem? found
    have remains : ∀ other ∈ after.inFlight, other ∈ before.inFlight ∨ other = moved := by
      intro other otherMember
      rw [inFlight] at otherMember
      exact List.mem_or_eq_of_mem_set otherMember
    apply consistent.shrinks
    · intro other otherMember
      rcases remains other otherMember with same | rfl
      · exact consistent.sound other same
      · exact sound (consistent.sound flight member)
    · rw [inFlight, List.length_set]
    · intro other otherMember
      rcases remains other otherMember with same | rfl
      · exact ⟨other, same, rfl⟩
      · exact ⟨flight, member, position.symm⟩
    · exact inner
    · exact pulled
    · exact published
  | publishes slot flight found installed pulled inFlight published =>
    exact consistent.publishes found
      (installed (consistent.sound flight (List.mem_of_getElem? found))) pulled inFlight published

end

theorem Consistent.overtakes_last {pipeline : Pipeline α γ ε}
    (consistent : pipeline.Consistent codec stream capacity initial) {last : Publication}
    (ends : pipeline.published.getLast? = some last) {other : Publication}
    (member : other ∈ pipeline.published) (overtaken : last.position < other.position) :
    last.position ∈ other.beside := by
  obtain ⟨front, split⟩ := List.getLast?_eq_some_iff.mp ends
  have ordered := consistent.ordered
  rw [split] at ordered member
  rcases List.mem_append.mp member with earlier | same
  · exact (List.pairwise_append.mp ordered).2.2 other earlier last List.mem_cons_self overtaken
  · cases List.mem_singleton.mp same
    exact absurd overtaken (Nat.lt_irrefl _)

theorem Consistent.last_of_capacity_one {pipeline : Pipeline α γ ε}
    (consistent : pipeline.Consistent codec stream 1 initial) {last : Publication}
    (ends : pipeline.published.getLast? = some last) {other : Publication}
    (member : other ∈ pipeline.published) : other.position ≤ last.position := by
  by_contra later
  have overtaken : last.position < other.position := by omega
  obtain ⟨own, single⟩ := consistent.beside other member
  have crossed := consistent.overtakes_last ends member overtaken
  have positive := List.length_pos_of_mem own
  obtain ⟨only, listed⟩ := List.length_eq_one_iff.mp (Nat.le_antisymm single positive)
  rw [listed, List.mem_singleton] at own crossed
  omega

end Pipeline

/-- At any time, and so when every artifact has been handled, the relay holds the
configuration of the artifact that was published last. An artifact that follows it
in the stream and was published as well was published while that one was in
flight. -/
theorem pipeline_holds_last_published (codec : PipelineCodec α γ δ) (options : PipelineOptions)
    (serde : Serde) (primitives : Primitives) (stream : List (Except ε α))
    (relay : RelayRuntimeState) {steps : List (Step (Pipeline α γ ε) PipelineAction PipelineEvent)}
    (isRun : IsRun (Pipeline.step codec options serde primitives stream) (Pipeline.start relay)
      steps)
    {pipeline : Pipeline α γ ε} (visits : Visits (Pipeline.start relay) steps pipeline) :
    match pipeline.published.getLast? with
    | none => pipeline.relay.inner = relay.inner
    | some last =>
      sealedAt codec stream last.position = some pipeline.relay.inner.artifact.bytes ∧
        (∀ other ∈ pipeline.published, last.position < other.position →
          last.position ∈ other.beside) ∧
        (options.maxInFlight ≤ 1 →
          ∀ other ∈ pipeline.published, other.position ≤ last.position) := by
  have consistent := isRun.invariant_visited
    (Pipeline.Consistent codec stream options.capacity relay.inner)
    (Pipeline.consistent_start relay)
    (fun _ accepted consistent => consistent.moves (Pipeline.moves_of_accepted accepted)) visits
  have current := consistent.current
  split
  · rename_i ends
    rw [ends] at current
    exact current
  · rename_i last ends
    rw [ends] at current
    refine ⟨current, fun other member => consistent.overtakes_last ends member, ?_⟩
    intro single other member
    have one : options.capacity = 1 := Nat.max_eq_right single
    rw [one] at consistent
    exact consistent.last_of_capacity_one ends member

end

def payloadCodec : PipelineCodec Bytes Bytes Unit :=
  { materialize := fun payload => .ok payload, encode := fun payload => .ok (artifactOf payload) }

def defaultOptions : PipelineOptions :=
  { maxInFlight := defaultMaxInFlight
    publishRetry := { maxAttempts := 5, baseDelay := 250000000, maxDelay := 5000000000 } }

def twoPayloads : List (Except Unit Bytes) := [.ok [7], .ok [8]]

def historyWriteFails : PublishPlan :=
  { everyStepDone with
    history :=
      { PairPlan.allDone with
        artifact := { WritePlan.allDone with write := .failed 0 } } }

def retriedLate : List PipelineAction :=
  [ .pull, .pull, .materialize 0, .materialize 1, .publish 0 historyWriteFails 0 0,
    .publish 1 everyStepDone 1 1, .publish 0 everyStepDone 2 2 ]

def lateTrace : List (Step (Pipeline Bytes Bytes Unit) PipelineAction PipelineEvent) :=
  trace (Pipeline.step payloadCodec defaultOptions smallSerde tabulated twoPayloads)
    (Pipeline.start startedRelay) retriedLate

theorem older_artifact_published_last :
    ∃ step, lateTrace.getLast? = some step ∧ step.after.Handled twoPayloads ∧
      step.after.published.map Publication.position = [1, 0] ∧
      step.after.relay.inner.artifact.bytes = artifactOf [7] ∧
      sealedAt payloadCodec twoPayloads 1 ≠ some step.after.relay.inner.artifact.bytes := by
  refine ⟨_, rfl, ⟨rfl, rfl⟩, rfl, rfl, ?_⟩
  decide

/-- The relay holds the configuration that was published last, and the newer one
overtook it. -/
theorem pipeline_holds_last_published_retriedLate :
    ∃ step ∈ lateTrace, step.after.published.getLast? = some ⟨0, [0]⟩ ∧
      sealedAt payloadCodec twoPayloads 0 = some step.after.relay.inner.artifact.bytes ∧
      ∀ other ∈ step.after.published, 0 < other.position → 0 ∈ other.beside := by
  obtain ⟨step, ends, last⟩ : ∃ step, lateTrace.getLast? = some step ∧
      step.after.published.getLast? = some ⟨0, [0]⟩ := ⟨_, rfl, rfl⟩
  have member := List.mem_of_getLast? ends
  have holds := pipeline_holds_last_published payloadCodec defaultOptions smallSerde tabulated
    twoPayloads startedRelay (trace_isRun _ _ _) (Or.inr ⟨step, member, rfl⟩)
  rw [last] at holds
  exact ⟨step, member, last, holds.1, holds.2.1⟩

end Pavis.Relay
