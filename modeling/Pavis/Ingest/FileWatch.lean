/-
Ingesting a file that is written while it is watched.

A write changes the modification time, and once the watch is registered it is
followed by an event.
-/

import Pavis.Library.ByteText
import Pavis.Library.LabelledRun

namespace Pavis.Ingest

open ByteText LabelledRun

inductive Format where
  | yaml
  | json
  | xdsDelta
  | xdsState
  | crd
  | unknown
  deriving DecidableEq

/-- The last name of a path, when it has one. -/
def fileName (path : Text) : Option Text :=
  let names := (path.splitOn (ascii '/')).filter fun name => name ≠ [] ∧ name ≠ literal "."
  match names.getLast? with
  | none => none
  | some name => if name = literal ".." then none else some name

/-- What follows the last dot of a name, unless the name starts with it. -/
def extension (path : Text) : Option Text :=
  match fileName path with
  | none => none
  | some name =>
    match splitOnce (ascii '.') name.reverse with
    | none => none
    | some (after, before) => if before = [] then none else some after.reverse

def inferFormat (path : Text) : Format :=
  match extension path with
  | none => .unknown
  | some text =>
    if text = literal "yaml" ∨ text = literal "yml" then .yaml
    else if text = literal "json" then .json
    else .unknown

example : inferFormat (literal "/etc/pavis/relay.d/config.yml") = .yaml := by decide

example : inferFormat (literal "conf/.yaml") = .unknown := by decide

def isSupported (format : Format) : Bool :=
  match format with
  | .yaml | .json => true
  | _ => false

/-- The errors of reading the file, all of them I/O errors of the ingest. -/
inductive IngestError where
  | unsupportedFormat (path : Text)
  | blank (path : Text)
  | malformedUtf8 (path : Text)
  | tooLarge (size maxBytes : Nat) (path : Text)
  | missing
  deriving DecidableEq

/-- The time at which an artifact was received is left out. -/
structure Artifact where
  bytes : Bytes
  format : Format
  source : Text
  deriving DecidableEq

abbrev Item := Except IngestError Artifact

def validateFormat (path : Text) (format : Format) : Except IngestError Unit :=
  if isSupported format then .ok () else .error (.unsupportedFormat path)

def validateBytes (path : Text) (bytes : Bytes) : Except IngestError Unit :=
  if bytes = [] then .error (.blank path)
  else
    match decodeUtf8 bytes with
    | none => .error (.malformedUtf8 path)
    | some points => if points.all isWhitespace then .error (.blank path) else .ok ()

def validateSize (path : Text) (size maxBytes : Nat) : Except IngestError Unit :=
  if maxBytes > 0 ∧ size > maxBytes then .error (.tooLarge size maxBytes path) else .ok ()

def defaultMaxBytes : Nat := 10 * 1024 * 1024

structure FileIngest where
  path : Text
  maxBytes : Nat

structure File where
  contents : Bytes
  mtime : Nat

namespace FileIngest

variable (ingest : FileIngest)

def itemOf (bytes : Bytes) : Item := do
  validateSize ingest.path bytes.length ingest.maxBytes
  validateBytes ingest.path bytes
  return { bytes := bytes, format := inferFormat ingest.path, source := ingest.path }

def readArtifact (file : Option File) : Item := do
  validateFormat ingest.path (inferFormat ingest.path)
  match file with
  | none => throw .missing
  | some file =>
    validateSize ingest.path file.contents.length ingest.maxBytes
    ingest.itemOf file.contents

/-- Where the ingest stands. The first three phases are those before the watch is
registered, the others those of the watcher task. -/
inductive Phase where
  | starting
  | measured
  | unwatched
  | failed
  | watched
  | waiting
  | noticed
  | ticked
  | expired
  | sized
  | sending (item : Item)

/-- Modifications and creations count, other events do not. -/
inductive EventKind where
  | modified
  | other
  deriving DecidableEq

/-- The queue between the task and the consumer holds one item. What the consumer
has received is listed in order. -/
structure System where
  file : Option File
  phase : Phase
  events : List EventKind
  timer : Bool
  lastMtime : Option Nat
  queue : Option Item
  emitted : List Item

inductive Action where
  | write (file : File)
  | notice (kind : EventKind)
  | measure
  | readFirst
  | register
  | readMtime
  | receive
  | tick
  | expire
  | checkSize
  | read
  | send
  | take

def System.initial (file : Option File) : System :=
  { file := file
    phase := .starting
    events := []
    timer := false
    lastMtime := none
    queue := none
    emitted := [] }

def Phase.isWatching : Phase → Bool
  | .starting | .measured | .unwatched | .failed => false
  | _ => true

def System.mtime (system : System) : Option Nat := system.file.map File.mtime

/-- A write replaces the file and, when it is watched, is followed by an event. -/
def System.write (system : System) (file : File) : System :=
  { system with
    file := some file
    events := if system.phase.isWatching then system.events ++ [.modified] else system.events }

/-- The first read ends with the item in the queue. -/
def System.decide (system : System) (item : Item) : System :=
  { system with phase := .unwatched, queue := some item }

/-- The first read as far as the size of the file. -/
def System.measure (system : System) : System :=
  match validateFormat ingest.path (inferFormat ingest.path) with
  | .error reason => system.decide (.error reason)
  | .ok () =>
    match system.file with
    | none => system.decide (.error .missing)
    | some file =>
      match validateSize ingest.path file.contents.length ingest.maxBytes with
      | .error reason => system.decide (.error reason)
      | .ok () => { system with phase := .measured }

def readItem (file : Option File) : Item :=
  match file with
  | none => .error .missing
  | some file => ingest.itemOf file.contents

/-- The task's read as far as the size of the file. A failing measurement is left
to the read. -/
def System.checkSize (system : System) : System :=
  match validateFormat ingest.path (inferFormat ingest.path) with
  | .error reason => { system with phase := .sending (.error reason) }
  | .ok () =>
    match system.file with
    | none => { system with phase := .sized }
    | some file =>
      match validateSize ingest.path file.contents.length ingest.maxBytes with
      | .error reason => { system with phase := .sending (.error reason) }
      | .ok () => { system with phase := .sized }

/-- The modification time is read after the watch is registered, after an event,
and after a tick, where only a change arms the timer. -/
def System.readMtime (system : System) : Option System :=
  match system.phase with
  | .watched => some { system with phase := .waiting, lastMtime := system.mtime }
  | .noticed => some { system with phase := .waiting, lastMtime := system.mtime, timer := true }
  | .ticked =>
    if system.mtime = system.lastMtime then some { system with phase := .waiting }
    else some { system with phase := .waiting, lastMtime := system.mtime, timer := true }
  | _ => none

def System.receive (system : System) : Option System :=
  match system.phase, system.events with
  | .waiting, .modified :: rest => some { system with phase := .noticed, events := rest }
  | .waiting, .other :: rest => some { system with events := rest }
  | _, _ => none

def step : Machine System Action Unit := fun system action =>
  let next : Option System :=
    match action with
    | .write file =>
      if system.mtime = some file.mtime then none else some (system.write file)
    | .notice kind =>
      if system.phase.isWatching then some { system with events := system.events ++ [kind] }
      else none
    | .measure =>
      match system.phase with
      | .starting => some (system.measure ingest)
      | _ => none
    | .readFirst =>
      match system.phase with
      | .measured => some (system.decide (ingest.readItem system.file))
      | _ => none
    | .register =>
      match system.phase, system.file with
      | .unwatched, some _ => some { system with phase := .watched }
      | .unwatched, none => some { system with phase := .failed }
      | _, _ => none
    | .readMtime => system.readMtime
    | .receive => system.receive
    | .tick =>
      match system.phase with
      | .waiting => some { system with phase := .ticked }
      | _ => none
    | .expire =>
      match system.phase, system.timer with
      | .waiting, true => some { system with phase := .expired, timer := false }
      | _, _ => none
    | .checkSize =>
      match system.phase with
      | .expired => some (system.checkSize ingest)
      | _ => none
    | .read =>
      match system.phase with
      | .sized => some { system with phase := .sending (ingest.readItem system.file) }
      | _ => none
    | .send =>
      match system.phase, system.queue with
      | .sending item, none => some { system with phase := .waiting, queue := some item }
      | _, _ => none
    | .take =>
      match system.phase.isWatching, system.queue with
      | true, some item =>
        some { system with queue := none, emitted := system.emitted ++ [item] }
      | _, _ => none
  next.map fun after => (after, ())

/-- No event is undelivered, no timer is set, nothing is queued and a poll would
see no change. -/
structure System.Quiescent (system : System) : Prop where
  waiting : system.phase = .waiting
  events : system.events = []
  timer : system.timer = false
  queue : system.queue = none
  mtime : system.mtime = system.lastMtime

/-- The last item that was decided on, received or not. -/
def System.latest (system : System) : Option Item :=
  match system.phase with
  | .sending item => some item
  | _ => system.queue.or system.emitted.getLast?

/-- A write after the first read and before the watch leaves what the file
determines as it was. -/
def Undisturbed (step : Step System Action Unit) : Prop :=
  ∀ file, step.label = .write file → step.before.phase = .unwatched →
    ingest.readArtifact (some file) = ingest.readArtifact step.before.file

variable {ingest}

theorem readItem_eq (supported : validateFormat ingest.path (inferFormat ingest.path) = .ok ())
    (file : Option File) : ingest.readItem file = ingest.readArtifact file := by
  unfold readItem readArtifact
  rw [supported]
  cases file with
  | none => rfl
  | some file =>
    dsimp only
    unfold itemOf
    cases validateSize ingest.path file.contents.length ingest.maxBytes with
    | error | ok => rfl

theorem readArtifact_unsupported {reason : IngestError}
    (unsupported : validateFormat ingest.path (inferFormat ingest.path) = .error reason)
    (file : Option File) : ingest.readArtifact file = .error reason := by
  unfold readArtifact
  rw [unsupported]
  rfl

theorem readArtifact_tooLarge
    (supported : validateFormat ingest.path (inferFormat ingest.path) = .ok ()) {file : File}
    {reason : IngestError}
    (large : validateSize ingest.path file.contents.length ingest.maxBytes = .error reason) :
    ingest.readArtifact (some file) = .error reason := by
  unfold readArtifact
  rw [supported]
  dsimp only [bind, Except.bind]
  rw [large]

/-! ### What every step keeps -/

def Phase.isReading : Phase → Bool
  | .noticed | .expired | .sized => true
  | _ => false

/-- The last item is that of the file, or the file is going to be read. -/
def System.Fresh (ingest : FileIngest) (system : System) : Prop :=
  system.latest = some (ingest.readArtifact system.file) ∨ .modified ∈ system.events ∨
    system.timer = true ∨ system.phase.isReading = true

structure System.Settled (ingest : FileIngest) (system : System) : Prop where
  supported : system.phase = .measured ∨ system.phase = .sized →
    validateFormat ingest.path (inferFormat ingest.path) = .ok ()
  unwatched : system.phase = .unwatched →
    system.latest = some (ingest.readArtifact system.file)
  fresh : system.phase.isWatching = true → system.Fresh ingest

namespace System

variable {system after : System} {item : Item}

theorem Settled.of_fresh (watching : system.phase.isWatching = true)
    (unsized : system.phase ≠ .sized) (fresh : system.Fresh ingest) : system.Settled ingest := by
  constructor
  · intro reading
    rcases reading with measured | sized
    · rw [measured] at watching
      cases watching
    · exact absurd sized unsized
  · intro unwatched
    rw [unwatched] at watching
    cases watching
  · intro _
    exact fresh

theorem Settled.sized (supported : validateFormat ingest.path (inferFormat ingest.path) = .ok ()) :
    ({ system with phase := .sized } : System).Settled ingest := by
  constructor
  · intro _
    exact supported
  · intro unwatched
    cases unwatched
  · intro _
    exact Or.inr (Or.inr (Or.inr rfl))

theorem settled_sending (sending : system.phase = .sending item)
    (decided : item = ingest.readArtifact system.file) : system.Settled ingest := by
  apply Settled.of_fresh
  · rw [sending]
    rfl
  · intro sized
    rw [sending] at sized
    cases sized
  · refine Or.inl ?_
    unfold System.latest
    rw [sending, decided]

theorem settled_armed (watching : system.phase.isWatching = true) (unsized : system.phase ≠ .sized)
    (armed : system.timer = true) : system.Settled ingest :=
  .of_fresh watching unsized (Or.inr (Or.inr (Or.inl armed)))

theorem settled_decide (decided : item = ingest.readArtifact system.file) :
    (system.decide item).Settled ingest := by
  constructor
  · intro reading
    rcases reading with impossible | impossible <;> cases impossible
  · intro _
    exact congrArg some decided
  · intro watching
    cases watching

private theorem settled_initial (file : Option File) : (initial file).Settled ingest := by
  constructor
  · intro reading
    rcases reading with impossible | impossible <;> cases impossible
  · intro unwatched
    cases unwatched
  · intro watching
    cases watching

private theorem settled_measure (system : System) : (system.measure ingest).Settled ingest := by
  unfold System.measure
  split
  · rename_i reason unsupported
    exact settled_decide (readArtifact_unsupported unsupported system.file).symm
  · rename_i supported
    split
    · rename_i missing
      apply settled_decide
      rw [missing, ← readItem_eq supported]
      rfl
    · rename_i file found
      split
      · rename_i reason large
        apply settled_decide
        rw [found, readArtifact_tooLarge supported large]
      · constructor
        · intro _
          exact supported
        · intro unwatched
          cases unwatched
        · intro watching
          cases watching

private theorem settled_checkSize (system : System) : (system.checkSize ingest).Settled ingest := by
  unfold System.checkSize
  split
  · rename_i reason unsupported
    exact settled_sending rfl (readArtifact_unsupported unsupported system.file).symm
  · rename_i supported
    split
    · exact Settled.sized supported
    · rename_i file found
      split
      · rename_i reason large
        apply settled_sending rfl
        rw [found, readArtifact_tooLarge supported large]
      · exact Settled.sized supported

theorem Settled.write (settled : system.Settled ingest) {file : File}
    (undisturbed : system.phase = .unwatched →
      ingest.readArtifact (some file) = ingest.readArtifact system.file) :
    (system.write file).Settled ingest := by
  constructor
  · exact settled.supported
  · intro unwatched
    change system.latest = some (ingest.readArtifact (some file))
    rw [undisturbed unwatched]
    exact settled.unwatched unwatched
  · intro watching
    change system.phase.isWatching = true at watching
    refine Or.inr (Or.inl ?_)
    unfold System.write
    rw [if_pos watching]
    exact List.mem_append_right _ List.mem_cons_self

theorem Settled.keep {before : System} (settled : before.Settled ingest)
    (watching : before.phase.isWatching = true) (waiting : before.phase.isReading = false)
    (watchingAfter : after.phase.isWatching = true) (unsized : after.phase ≠ .sized)
    (file : after.file = before.file) (latest : after.latest = before.latest)
    (events : .modified ∈ before.events → .modified ∈ after.events)
    (timer : before.timer = true → after.timer = true) : after.Settled ingest := by
  apply of_fresh watchingAfter unsized
  rcases settled.fresh watching with current | pending | armed | reading
  · refine Or.inl ?_
    rw [latest, file]
    exact current
  · exact Or.inr (Or.inl (events pending))
  · exact Or.inr (Or.inr (Or.inl (timer armed)))
  · rw [waiting] at reading
    cases reading

theorem Settled.readMtime (settled : system.Settled ingest) (read : system.readMtime = some after) :
    after.Settled ingest := by
  obtain ⟨file, phase, events, timer, lastMtime, queue, emitted⟩ := system
  unfold System.readMtime at read
  cases phase with
  | watched =>
    cases read
    exact settled.keep rfl rfl rfl (fun sized => by cases sized) rfl rfl id id
  | noticed =>
    cases read
    exact settled_armed rfl (fun sized => by cases sized) rfl
  | ticked =>
    dsimp only at read
    split at read
    · cases read
      exact settled.keep rfl rfl rfl (fun sized => by cases sized) rfl rfl id id
    · cases read
      exact settled_armed rfl (fun sized => by cases sized) rfl
  | _ => cases read

theorem Settled.receive (settled : system.Settled ingest) (received : system.receive = some after) :
    after.Settled ingest := by
  obtain ⟨file, phase, events, timer, lastMtime, queue, emitted⟩ := system
  unfold System.receive at received
  dsimp only at received
  split at received
  · cases received
    apply of_fresh rfl
    · intro sized
      cases sized
    · exact Or.inr (Or.inr (Or.inr rfl))
  · cases received
    refine settled.keep rfl rfl rfl (fun sized => by cases sized) rfl rfl ?_ id
    intro pending
    exact (List.mem_cons.mp pending).resolve_left (fun same => by cases same)
  · cases received

theorem Settled.take {file : Option File} {phase : Phase} {events : List EventKind} {timer : Bool}
    {lastMtime : Option Nat} {emitted : List Item}
    (settled : Settled ingest ⟨file, phase, events, timer, lastMtime, some item, emitted⟩) :
    Settled ingest ⟨file, phase, events, timer, lastMtime, none, emitted ++ [item]⟩ := by
  have latest : System.latest ⟨file, phase, events, timer, lastMtime, none, emitted ++ [item]⟩ =
      System.latest ⟨file, phase, events, timer, lastMtime, some item, emitted⟩ := by
    cases phase with
    | sending => rfl
    | _ =>
      change (emitted ++ [item]).getLast? = some item
      rw [List.getLast?_append]
      rfl
  constructor
  · exact settled.supported
  · intro unwatched
    rw [latest]
    exact settled.unwatched unwatched
  · intro watching
    have fresh := settled.fresh watching
    unfold System.Fresh at fresh ⊢
    rw [latest]
    exact fresh

theorem Settled.notice (settled : system.Settled ingest) (kind : EventKind) :
    ({ system with events := system.events ++ [kind] } : System).Settled ingest := by
  constructor
  · exact settled.supported
  · exact settled.unwatched
  · intro watching
    rcases settled.fresh watching with current | pending | later
    · exact Or.inl current
    · exact Or.inr (Or.inl (List.mem_append_left _ pending))
    · exact Or.inr (Or.inr later)

theorem Settled.register {file : Option File} {events : List EventKind} {timer : Bool}
    {lastMtime : Option Nat} {queue : Option Item} {emitted : List Item}
    (settled : Settled ingest ⟨file, .unwatched, events, timer, lastMtime, queue, emitted⟩) :
    Settled ingest ⟨file, .watched, events, timer, lastMtime, queue, emitted⟩ := by
  apply of_fresh rfl
  · intro sized
    cases sized
  · exact Or.inl (settled.unwatched rfl)

private theorem settled_failed (failed : system.phase = .failed) : system.Settled ingest := by
  constructor
  · intro reading
    rw [failed] at reading
    rcases reading with impossible | impossible <;> cases impossible
  · intro unwatched
    rw [failed] at unwatched
    cases unwatched
  · intro watching
    rw [failed] at watching
    cases watching

private theorem settled_of_accepted {step : Step System Action Unit}
    (accepted : step.Accepted ingest.step) (undisturbed : ingest.Undisturbed step)
    (settled : step.before.Settled ingest) : step.after.Settled ingest := by
  obtain ⟨⟨file, phase, events, timer, lastMtime, queue, emitted⟩, action, after, output⟩ := step
  obtain ⟨next, moved, same⟩ := Option.map_eq_some_iff.mp accepted
  cases same
  dsimp only at settled moved ⊢
  cases action with
  | write written =>
    dsimp only at moved
    split at moved
    · cases moved
    · cases moved
      exact settled.write (undisturbed written rfl)
  | notice kind =>
    dsimp only at moved
    split at moved
    · cases moved
      exact settled.notice kind
    · cases moved
  | measure =>
    cases phase <;> cases moved
    exact settled_measure _
  | readFirst =>
    cases phase <;> cases moved
    exact settled_decide (readItem_eq (settled.supported (Or.inl rfl)) file)
  | register =>
    cases phase with
    | unwatched =>
      cases file with
      | none =>
        cases moved
        exact settled_failed rfl
      | some =>
        cases moved
        exact settled.register
    | _ => cases moved
  | readMtime => exact settled.readMtime moved
  | receive => exact settled.receive moved
  | tick =>
    cases phase <;> cases moved
    exact settled.keep rfl rfl rfl (fun sized => by cases sized) rfl rfl id id
  | expire =>
    cases phase with
    | waiting =>
      cases timer with
      | true =>
        cases moved
        apply Settled.of_fresh rfl
        · intro sized
          cases sized
        · exact Or.inr (Or.inr (Or.inr rfl))
      | false => cases moved
    | _ => cases moved
  | checkSize =>
    cases phase <;> cases moved
    exact settled_checkSize _
  | read =>
    cases phase <;> cases moved
    exact settled_sending rfl (readItem_eq (settled.supported (Or.inr rfl)) file)
  | send =>
    cases phase with
    | sending =>
      cases queue with
      | none =>
        cases moved
        exact settled.keep rfl rfl rfl (fun sized => by cases sized) rfl rfl id id
      | some => cases moved
    | _ => cases moved
  | take =>
    cases queue with
    | none =>
      dsimp only at moved
      split at moved
      · rename_i absent
        cases absent
      · cases moved
    | some =>
      dsimp only at moved
      split at moved
      · rename_i queued
        cases queued
        cases moved
        exact settled.take
      · cases moved

theorem Settled.quiescent (settled : system.Settled ingest) (quiescent : system.Quiescent) :
    system.emitted.getLast? = some (ingest.readArtifact system.file) := by
  obtain ⟨waiting, events, timer, queue, _⟩ := quiescent
  have latest : system.latest = system.emitted.getLast? := by
    unfold System.latest
    rw [waiting, queue]
    rfl
  rcases settled.fresh (by rw [waiting]; rfl) with current | pending | armed | reading
  · rw [← latest]
    exact current
  · rw [events] at pending
    cases pending
  · rw [timer] at armed
    cases armed
  · rw [waiting] at reading
    cases reading

end System

/-- While no write falls between the first read and the watch, or changes nothing
there, the last item emitted in a quiescent state is the one of the file. -/
theorem ingest_emits_final_content (ingest : FileIngest) (file : Option File)
    {steps : List (Step System Action Unit)} (isRun : IsRun ingest.step (System.initial file) steps)
    (undisturbed : ∀ step ∈ steps, ingest.Undisturbed step) :
    ∀ system, Visits (System.initial file) steps system → system.Quiescent →
      system.emitted.getLast? = some (ingest.readArtifact system.file) := by
  intro system visits quiescent
  have settled : system.Settled ingest :=
    isRun.guarded_visited (System.Settled ingest) (System.settled_initial file)
      ingest.Undisturbed undisturbed (fun _ => System.settled_of_accepted) visits
  exact settled.quiescent quiescent

def yamlIngest : FileIngest :=
  { path := literal "/etc/pavis/config.yaml", maxBytes := defaultMaxBytes }

def firstFile : File := { contents := literal "version: 1", mtime := 1 }

def secondFile : File := { contents := literal "version: 2", mtime := 2 }

def writtenBeforeWatch : List Action :=
  [.measure, .readFirst, .write secondFile, .register, .take, .readMtime, .tick, .readMtime]

theorem write_before_watch_lost :
    ∃ step, (trace yamlIngest.step (System.initial (some firstFile)) writtenBeforeWatch).getLast? =
        some step ∧
      step.after.Quiescent ∧ step.after.file = some secondFile ∧
      step.after.emitted.getLast? = some (yamlIngest.readArtifact (some firstFile)) ∧
      yamlIngest.readArtifact (some firstFile) ≠ yamlIngest.readArtifact (some secondFile) := by
  refine ⟨_, rfl, ⟨rfl, rfl, rfl, rfl, rfl⟩, rfl, ?_, ?_⟩ <;> decide +kernel

def writtenAfterWatch : List Action :=
  [ .measure, .readFirst, .register, .write secondFile, .readMtime, .take, .receive, .readMtime,
    .expire, .checkSize, .read, .send, .take ]

def isUnwatchedWrite (step : Step System Action Unit) : Bool :=
  match step.label, step.before.phase with
  | .write _, .unwatched => true
  | _, _ => false

private theorem undisturbed_of_watched {ingest : FileIngest} {step : Step System Action Unit}
    (watched : isUnwatchedWrite step = false) : ingest.Undisturbed step := by
  intro file written unwatched
  unfold isUnwatchedWrite at watched
  rw [written, unwatched] at watched
  cases watched

theorem ingest_emits_final_content_writtenAfterWatch :
    ∃ step ∈ trace yamlIngest.step (System.initial (some firstFile)) writtenAfterWatch,
      step.after.Quiescent ∧
      step.after.emitted.getLast? = some (yamlIngest.readArtifact (some secondFile)) := by
  obtain ⟨step, ends, quiescent, written⟩ : ∃ step,
      (trace yamlIngest.step (System.initial (some firstFile)) writtenAfterWatch).getLast? =
        some step ∧ step.after.Quiescent ∧ step.after.file = some secondFile :=
    ⟨_, rfl, ⟨rfl, rfl, rfl, rfl, rfl⟩, rfl⟩
  have member := List.mem_of_getLast? ends
  have watched : (trace yamlIngest.step (System.initial (some firstFile))
      writtenAfterWatch).all (fun step => !isUnwatchedWrite step) = true := by
    decide +kernel
  have emits := ingest_emits_final_content yamlIngest (some firstFile) (trace_isRun _ _ _)
    (fun step within => undisturbed_of_watched
      (by simpa using List.all_eq_true.mp watched step within))
    step.after (Or.inr ⟨step, member, rfl⟩) quiescent
  rw [written] at emits
  exact ⟨step, member, quiescent, emits⟩

end FileIngest

end Pavis.Ingest
