/-
Reading an artifact from a file.

A session lists what the calls on one open file return, so it also describes files
that change while they are read; a session serves given bytes when the file is left
alone.
-/

import Pavis.Pvs.Canonical

namespace Pavis.Pvs

open ByteText

inductive ReadFault where
  | interrupted
  | other
  deriving DecidableEq

/-- One call of `read`; an empty chunk is the end of the file. -/
inductive ReadResult where
  | chunk (bytes : Bytes)
  | fault (reason : ReadFault)
  deriving DecidableEq

/-- The room in the buffer of the next read: what is missing of the header,
then the payload buffer. -/
def capacity (consumed : Nat) : Nat :=
  if consumed < headerSize then headerSize - consumed else 8192

def Fits : Nat → List ReadResult → Prop
  | _, [] => True
  | consumed, .chunk bytes :: rest =>
    bytes.length ≤ capacity consumed ∧ Fits (consumed + bytes.length) rest
  | consumed, .fault _ :: rest => Fits consumed rest

/-- What the calls on a path return. The length is asked for at the start and
again when the header ends early; past the last listed read the file ends. -/
structure FileSession where
  opened : Bool
  length : Option Nat
  lengthAtEnd : Option Nat
  reads : List ReadResult
  fits : Fits 0 reads

def usizeMax : Nat := 2 ^ 64 - 1

/-- The incremental digest: feeding chunks is feeding their concatenation. -/
structure Hasher (sha256 : Bytes → Bytes) where
  State : Type
  new : State
  update : State → Bytes → State
  finalize : State → Bytes
  finalize_updates : ∀ chunks : List Bytes,
    finalize (chunks.foldl update new) = sha256 chunks.flatten

inductive HeaderRead where
  | filled (buffer : Bytes) (rest : List ReadResult)
  | ended
  | failed
  deriving DecidableEq

/-- `read_exact` of the header: an interrupted read is repeated. -/
def readExact (buffer : Bytes) : List ReadResult → HeaderRead
  | [] => if headerSize ≤ buffer.length then .filled buffer [] else .ended
  | .chunk bytes :: rest =>
    if headerSize ≤ buffer.length then .filled buffer (.chunk bytes :: rest)
    else if bytes = [] then .ended
    else readExact (buffer ++ bytes) rest
  | .fault reason :: rest =>
    if headerSize ≤ buffer.length then .filled buffer (.fault reason :: rest)
    else
      match reason with
      | .interrupted => readExact buffer rest
      | .other => .failed

structure PayloadRead (σ : Type) where
  hasher : σ
  payloadLen : Nat
  bytes : Bytes

/-- The payload loop: an interrupted read is an error like any other. -/
def readPayload {sha256 : Bytes → Bytes} (hasher : Hasher sha256)
    (read : PayloadRead hasher.State) :
    List ReadResult → Except PvsError (PayloadRead hasher.State)
  | [] => .ok read
  | .fault _ :: _ => .error .io
  | .chunk bytes :: rest =>
    if bytes = [] then .ok read
    else
      let payloadLen := min (read.payloadLen + bytes.length) usizeMax
      if payloadLen > maxPayloadSize then .error (.payloadTooLarge maxPayloadSize payloadLen)
      else
        readPayload hasher
          { hasher := hasher.update read.hasher bytes
            payloadLen := payloadLen
            bytes := read.bytes ++ bytes } rest

def readBody (primitives : Primitives) (hasher : Hasher primitives.sha256) (buffer : Bytes)
    (reads : List ReadResult) : Except PvsError (PvsHeader × Bytes) :=
  match parseHeader buffer with
  | .error reason => .error reason
  | .ok header =>
    match validateHeader header with
    | .error reason => .error reason
    | .ok () =>
      match readPayload hasher { hasher := hasher.new, payloadLen := 0, bytes := buffer } reads
      with
      | .error reason => .error reason
      | .ok read =>
        let computed := hasher.finalize read.hasher
        if computed ≠ header.checksum then
          .error (.checksumMismatch header.checksum computed)
        else .ok (header, read.bytes)

def readVerifiedFile (primitives : Primitives) (hasher : Hasher primitives.sha256)
    (session : FileSession) : Except PvsError (PvsHeader × Bytes) :=
  if !session.opened then .error .io
  else
    match session.length with
    | none => .error .io
    | some length =>
      let fileLen := min length usizeMax
      if fileLen < headerSize then .error (.tooSmall headerSize fileLen)
      else if fileLen > headerSize + maxPayloadSize then
        .error (.payloadTooLarge maxPayloadSize (fileLen - headerSize))
      else
        match readExact [] session.reads with
        | .failed => .error .io
        | .ended =>
          match session.lengthAtEnd with
          | none => .error .io
          | some actual => .error (.tooSmall headerSize (min actual usizeMax))
        | .filled buffer rest => readBody primitives hasher buffer rest

def load {γ : Type} (archiver : Archiver γ) (hasher : Hasher archiver.primitives.sha256)
    (session : FileSession) : Except PvsError γ :=
  match readVerifiedFile archiver.primitives hasher session with
  | .error reason => .error reason
  | .ok (_, bytes) =>
    if archiver.primitives.archived (bytes.drop headerSize) then
      match archiver.deserialize (bytes.drop headerSize) with
      | .error _ => .error .corruptArchive
      | .ok config => .ok config
    else .error .corruptArchive

/-! ### A file that is left alone -/

/-- The file holds `bytes` throughout, and every read before the end returns a
chunk that is not empty. -/
structure FileSession.Serves (session : FileSession) (bytes : Bytes) : Prop where
  opened : session.opened = true
  length : session.length = some bytes.length
  lengthAtEnd : session.lengthAtEnd = some bytes.length
  chunks : ∃ chunks : List Bytes, session.reads = chunks.map .chunk ∧
    (∀ chunk ∈ chunks, chunk ≠ []) ∧ chunks.flatten = bytes

theorem readExact_filled (buffer : Bytes) (reads : List ReadResult)
    (full : headerSize ≤ buffer.length) : readExact buffer reads = .filled buffer reads := by
  cases reads with
  | nil => exact if_pos full
  | cons head =>
    cases head with
    | chunk | fault => exact if_pos full

variable {buffer bytes : Bytes} {chunks : List Bytes} {primitives : Primitives}
  {session : FileSession}

private theorem readExact_chunk {rest : List ReadResult} (missing : buffer.length < headerSize)
    (nonempty : bytes ≠ []) :
    readExact buffer (.chunk bytes :: rest) = readExact (buffer ++ bytes) rest := by
  rw [readExact, if_neg (Nat.not_le.mpr missing), if_neg nonempty]

private theorem readExact_chunks (buffer : Bytes) (nonempty : ∀ chunk ∈ chunks, chunk ≠ [])
    (fits : Fits buffer.length (chunks.map .chunk)) (room : buffer.length ≤ headerSize)
    (enough : headerSize ≤ buffer.length + chunks.flatten.length) :
    ∃ rest : List Bytes,
      readExact buffer (chunks.map .chunk) =
        .filled ((buffer ++ chunks.flatten).take headerSize) (rest.map .chunk) ∧
      (∀ chunk ∈ rest, chunk ≠ []) ∧
      rest.flatten = (buffer ++ chunks.flatten).drop headerSize := by
  induction chunks generalizing buffer with
  | nil =>
    have full : buffer.length = headerSize := by
      rw [List.flatten_nil, List.length_nil] at enough
      omega
    refine ⟨[], ?_, nonempty, ?_⟩
    · rw [List.flatten_nil, List.append_nil, ← full, List.take_length]
      exact readExact_filled buffer [] (by omega)
    · rw [List.flatten_nil, List.append_nil, ← full, List.drop_length]
  | cons chunk rest ih =>
    by_cases full : buffer.length = headerSize
    · refine ⟨chunk :: rest, ?_, nonempty, ?_⟩
      · rw [← full, List.take_left]
        exact readExact_filled buffer _ (by omega)
      · rw [← full, List.drop_left]
    · have missing : buffer.length < headerSize := by omega
      have nonemptyRest : ∀ later ∈ rest, later ≠ [] :=
        fun later listed => nonempty later (List.mem_cons_of_mem _ listed)
      obtain ⟨small, fitsRest⟩ := fits
      rw [capacity, if_pos missing] at small
      rw [← List.length_append] at fitsRest
      rw [List.flatten_cons, List.length_append] at enough
      have roomRest : (buffer ++ chunk).length ≤ headerSize := by
        rw [List.length_append]
        omega
      have enoughRest : headerSize ≤ (buffer ++ chunk).length + rest.flatten.length := by
        rw [List.length_append]
        omega
      obtain ⟨left, filled, leftNonempty, remaining⟩ :=
        ih _ nonemptyRest fitsRest roomRest enoughRest
      refine ⟨left, ?_, leftNonempty, ?_⟩
      · rw [List.map_cons, readExact_chunk missing (nonempty chunk List.mem_cons_self), filled,
          List.flatten_cons, List.append_assoc]
      · rw [remaining, List.flatten_cons, List.append_assoc]

theorem readPayload_chunks {sha256 : Bytes → Bytes} (hasher : Hasher sha256)
    (read : PayloadRead hasher.State) (nonempty : ∀ chunk ∈ chunks, chunk ≠ [])
    (bounded : read.payloadLen + chunks.flatten.length ≤ maxPayloadSize) :
    readPayload hasher read (chunks.map .chunk) =
      .ok
        { hasher := chunks.foldl hasher.update read.hasher
          payloadLen := read.payloadLen + chunks.flatten.length
          bytes := read.bytes ++ chunks.flatten } := by
  induction chunks generalizing read with
  | nil =>
    rw [List.map_nil, List.foldl_nil, List.flatten_nil, List.append_nil]
    rfl
  | cons chunk rest ih =>
    have head := nonempty chunk List.mem_cons_self
    rw [List.flatten_cons, List.length_append] at bounded
    have machine : maxPayloadSize ≤ usizeMax := by decide
    have length : min (read.payloadLen + chunk.length) usizeMax =
        read.payloadLen + chunk.length := by omega
    rw [List.map_cons, readPayload, if_neg head, length, if_neg (by omega),
      ih _ (fun later listed => nonempty later (List.mem_cons_of_mem _ listed)) (by
        dsimp only
        omega)]
    simp only [List.foldl_cons, List.flatten_cons, List.length_append, List.append_assoc,
      Nat.add_assoc]

private theorem readBody_chunks (primitives : Primitives) (hasher : Hasher primitives.sha256)
    (nonempty : ∀ chunk ∈ chunks, chunk ≠ []) (whole : buffer.length = headerSize)
    (bounded : chunks.flatten.length ≤ maxPayloadSize) :
    readBody primitives hasher buffer (chunks.map .chunk) =
      (verifyBytes primitives (buffer ++ chunks.flatten)).map
        (fun found => (found.1, buffer ++ chunks.flatten)) := by
  have total : (buffer ++ chunks.flatten).length = headerSize + chunks.flatten.length := by
    rw [List.length_append, whole]
  have front : (buffer ++ chunks.flatten).take headerSize = buffer := by
    rw [← whole, List.take_left]
  have rest : (buffer ++ chunks.flatten).drop headerSize = chunks.flatten := by
    rw [← whole, List.drop_left]
  have loop := readPayload_chunks hasher
    { hasher := hasher.new, payloadLen := 0, bytes := buffer } nonempty (by dsimp only; omega)
  rw [readBody, verifyBytes, if_neg (by omega), if_neg (by omega), front, rest, loop]
  cases parseHeader buffer with
  | error => rfl
  | ok header =>
    dsimp only
    cases validateHeader header with
    | error => rfl
    | ok =>
      dsimp only
      rw [hasher.finalize_updates]
      split <;> rfl

/-- A file that fits into memory is judged like its bytes, down to the fields
of the errors. -/
theorem readVerifiedFile_served (hasher : Hasher primitives.sha256) (serves : session.Serves bytes)
    (addressable : bytes.length ≤ usizeMax) :
    readVerifiedFile primitives hasher session =
      (verifyBytes primitives bytes).map (fun found => (found.1, bytes)) := by
  obtain ⟨chunks, reads, nonempty, joined⟩ := serves.chunks
  have fits := session.fits
  rw [reads] at fits
  have fileLen : min bytes.length usizeMax = bytes.length := Nat.min_eq_left addressable
  unfold readVerifiedFile
  rw [serves.opened, serves.length]
  dsimp only
  rw [fileLen]
  by_cases short : bytes.length < headerSize
  · rw [if_neg (by decide), if_pos short, verifyBytes, if_pos short]
    rfl
  · by_cases large : bytes.length > headerSize + maxPayloadSize
    · rw [if_neg (by decide), if_neg short, if_pos large, verifyBytes, if_neg short, if_pos large]
      rfl
    · have enough : headerSize ≤ 0 + chunks.flatten.length := by
        rw [joined]
        omega
      obtain ⟨rest, filled, restNonempty, remaining⟩ :=
        readExact_chunks [] nonempty fits (Nat.zero_le _) enough
      rw [List.nil_append, joined] at filled remaining
      have whole : (bytes.take headerSize).length = headerSize := by
        rw [List.length_take]
        omega
      have bounded : rest.flatten.length ≤ maxPayloadSize := by
        rw [remaining, List.length_drop]
        omega
      have body := readBody_chunks primitives hasher restNonempty whole bounded
      rw [remaining, List.take_append_drop] at body
      rw [if_neg (by decide), if_neg short, if_neg large, reads, filled]
      exact body

private theorem readVerifiedFile_unaddressable (hasher : Hasher primitives.sha256)
    (serves : session.Serves bytes) (unaddressable : usizeMax < bytes.length) :
    readVerifiedFile primitives hasher session =
        .error (.payloadTooLarge maxPayloadSize (usizeMax - headerSize)) ∧
      verifyBytes primitives bytes =
        .error (.payloadTooLarge maxPayloadSize (bytes.length - headerSize)) := by
  have fileLen : min bytes.length usizeMax = usizeMax :=
    Nat.min_eq_right (Nat.le_of_lt unaddressable)
  have machine : headerSize + maxPayloadSize < usizeMax := by decide
  constructor
  · unfold readVerifiedFile
    rw [serves.opened, serves.length]
    dsimp only
    rw [fileLen, if_neg (by decide), if_neg (by omega), if_pos (by omega)]
  · rw [verifyBytes, if_neg (by omega), if_pos (by omega)]

def PvsError.sameVariant : PvsError → PvsError → Bool
  | .io, .io => true
  | .tooSmall _ _, .tooSmall _ _ => true
  | .payloadTooLarge _ _, .payloadTooLarge _ _ => true
  | .headerTooShort _ _, .headerTooShort _ _ => true
  | .invalidMagic _ _, .invalidMagic _ _ => true
  | .versionMismatch _ _, .versionMismatch _ _ => true
  | .nonZeroReservedBytes _, .nonZeroReservedBytes _ => true
  | .unsupportedAlgorithm _, .unsupportedAlgorithm _ => true
  | .checksumMismatch _ _, .checksumMismatch _ _ => true
  | .corruptArchive, .corruptArchive => true
  | .serialization _, .serialization _ => true
  | _, _ => false

theorem PvsError.sameVariant_refl (reason : PvsError) : reason.sameVariant reason = true := by
  cases reason <;> rfl

/-- A file that is left alone is accepted exactly when its bytes are, with the
same header and the same bytes, and refused with the same variant. -/
theorem streaming_agrees {primitives : Primitives} (hasher : Hasher primitives.sha256)
    {session : FileSession} {bytes : Bytes} (serves : session.Serves bytes) :
    (∀ header read, readVerifiedFile primitives hasher session = .ok (header, read) ↔
      (∃ payload, verifyBytes primitives bytes = .ok (header, payload)) ∧ read = bytes) ∧
    (∀ reason, readVerifiedFile primitives hasher session = .error reason →
      ∃ other, verifyBytes primitives bytes = .error other ∧ reason.sameVariant other = true) := by
  by_cases addressable : bytes.length ≤ usizeMax
  · rw [readVerifiedFile_served hasher serves addressable]
    cases verifyBytes primitives bytes with
    | error reason =>
      refine ⟨fun header read => ⟨?_, ?_⟩, ?_⟩
      · intro impossible
        cases impossible
      · rintro ⟨⟨payload, impossible⟩, _⟩
        cases impossible
      · intro other same
        cases same
        exact ⟨reason, rfl, reason.sameVariant_refl⟩
    | ok found =>
      obtain ⟨found, payload⟩ := found
      refine ⟨fun header read => ⟨?_, ?_⟩, ?_⟩
      · intro same
        cases same
        exact ⟨⟨payload, rfl⟩, rfl⟩
      · rintro ⟨⟨other, same⟩, rfl⟩
        cases same
        rfl
      · intro reason impossible
        cases impossible
  · obtain ⟨file, memory⟩ :=
      readVerifiedFile_unaddressable hasher serves (Nat.lt_of_not_le addressable)
    rw [file, memory]
    refine ⟨fun header read => ⟨?_, ?_⟩, ?_⟩
    · intro impossible
      cases impossible
    · rintro ⟨⟨payload, impossible⟩, _⟩
      cases impossible
    · intro reason same
      cases same
      exact ⟨_, rfl, rfl⟩

def bufferingHasher (sha256 : Bytes → Bytes) : Hasher sha256 where
  State := Bytes
  new := []
  update fed chunk := fed ++ chunk
  finalize := sha256
  finalize_updates chunks := by
    have gathered : ∀ (fed : Bytes) (chunks : List Bytes),
        chunks.foldl (fun fed chunk => fed ++ chunk) fed = fed ++ chunks.flatten := by
      intro fed chunks
      induction chunks generalizing fed with
      | nil => exact (List.append_nil fed).symm
      | cons chunk rest ih => rw [List.foldl_cons, ih, List.flatten_cons, List.append_assoc]
    rw [gathered, List.nil_append]

def choppedSession : FileSession where
  opened := true
  length := some 65
  lengthAtEnd := some 65
  reads :=
    [.chunk (smallArtifact.take 40), .chunk ((smallArtifact.drop 40).take 24),
      .chunk (smallArtifact.drop 64)]
  fits := ⟨by decide, by decide, by decide, trivial⟩

theorem chopped_artifact_read :
    readVerifiedFile tabulated (bufferingHasher tabulated.sha256) choppedSession =
      .ok (headerFor tabulated [7], smallArtifact) := by
  have serves : choppedSession.Serves smallArtifact :=
    ⟨rfl, by decide, by decide,
      [smallArtifact.take 40, (smallArtifact.drop 40).take 24, smallArtifact.drop 64], rfl,
      by decide, by decide⟩
  exact ((streaming_agrees (bufferingHasher tabulated.sha256) serves).1 _ _).mpr
    ⟨⟨[7], by decide⟩, rfl⟩

/-! ### A file that changes -/

variable {reads : List ReadResult}

private theorem readExact_length (buffer : Bytes) {out : Bytes} {rest : List ReadResult}
    (fits : Fits buffer.length reads) (room : buffer.length ≤ headerSize)
    (filled : readExact buffer reads = .filled out rest) : out.length = headerSize := by
  induction reads generalizing buffer with
  | nil =>
    rw [readExact] at filled
    split at filled
    · cases filled
      omega
    · cases filled
  | cons head tail ih =>
    by_cases full : headerSize ≤ buffer.length
    · rw [readExact_filled _ _ full] at filled
      cases filled
      omega
    · cases head with
      | chunk =>
        obtain ⟨small, fitsTail⟩ := fits
        rw [capacity, if_pos (Nat.lt_of_not_le full)] at small
        rw [readExact, if_neg full] at filled
        split at filled
        · cases filled
        · rw [← List.length_append] at fitsTail
          refine ih _ fitsTail ?_ filled
          rw [List.length_append]
          omega
      | fault reason =>
        simp only [readExact, if_neg full] at filled
        cases reason with
        | interrupted => exact ih _ fits room filled
        | other => cases filled

private theorem readPayload_ok {sha256 : Bytes → Bytes} {hasher : Hasher sha256}
    {read result : PayloadRead hasher.State} (bounded : read.payloadLen ≤ maxPayloadSize)
    (done : readPayload hasher read reads = .ok result) :
    ∃ chunks : List Bytes, result.hasher = chunks.foldl hasher.update read.hasher ∧
      result.bytes = read.bytes ++ chunks.flatten ∧
      read.payloadLen + chunks.flatten.length ≤ maxPayloadSize := by
  have stopped : ∃ chunks : List Bytes, read.hasher = chunks.foldl hasher.update read.hasher ∧
      read.bytes = read.bytes ++ chunks.flatten ∧
      read.payloadLen + chunks.flatten.length ≤ maxPayloadSize :=
    ⟨[], rfl, (List.append_nil _).symm, bounded⟩
  induction reads generalizing read with
  | nil =>
    cases done
    exact stopped
  | cons head tail ih =>
    cases head with
    | fault => cases done
    | chunk bytes =>
      rw [readPayload] at done
      split at done
      · cases done
        exact stopped
      · dsimp only at done
        split at done
        · cases done
        · rename_i within
          have machine : maxPayloadSize < usizeMax := by decide
          have length : min (read.payloadLen + bytes.length) usizeMax =
              read.payloadLen + bytes.length := by omega
          rw [length] at done within
          obtain ⟨chunks, fed, gathered, total⟩ := ih (Nat.le_of_not_gt within) done
            ⟨[], rfl, (List.append_nil _).symm, Nat.le_of_not_gt within⟩
          refine ⟨bytes :: chunks, fed, ?_, ?_⟩
          · rw [gathered, List.flatten_cons, List.append_assoc]
          · rw [List.flatten_cons, List.length_append]
            dsimp only at total
            omega

private theorem readBody_verified {hasher : Hasher primitives.sha256} {header : PvsHeader}
    (whole : buffer.length = headerSize)
    (read : readBody primitives hasher buffer reads = .ok (header, bytes)) :
    verifyBytes primitives bytes = .ok (header, bytes.drop headerSize) := by
  unfold readBody at read
  cases parsed : parseHeader buffer with
  | error =>
    rw [parsed] at read
    cases read
  | ok found =>
    rw [parsed] at read
    dsimp only at read
    cases valid : validateHeader found with
    | error =>
      rw [valid] at read
      cases read
    | ok =>
      rw [valid] at read
      dsimp only at read
      cases loop : readPayload hasher
          { hasher := hasher.new, payloadLen := 0, bytes := buffer } reads with
      | error =>
        rw [loop] at read
        cases read
      | ok =>
        rw [loop] at read
        dsimp only at read
        obtain ⟨chunks, fed, gathered, bounded⟩ := readPayload_ok (Nat.zero_le _) loop
        dsimp only at fed gathered bounded
        rw [fed, hasher.finalize_updates, gathered] at read
        split at read
        · cases read
        · rename_i same
          cases read
          have front : (buffer ++ chunks.flatten).take headerSize = buffer := by
            rw [← whole, List.take_left]
          have rest : (buffer ++ chunks.flatten).drop headerSize = chunks.flatten := by
            rw [← whole, List.drop_left]
          have total : (buffer ++ chunks.flatten).length =
              headerSize + chunks.flatten.length := by
            rw [List.length_append, whole]
          rw [verifyBytes, if_neg (by omega), if_neg (by omega), front, parsed]
          dsimp only
          rw [valid, rest]
          exact if_neg same

/-- Whatever happens to the file meanwhile, the bytes that are returned are
bytes that pass the checks in memory. -/
theorem readVerifiedFile_verified {hasher : Hasher primitives.sha256} {header : PvsHeader}
    (read : readVerifiedFile primitives hasher session = .ok (header, bytes)) :
    verifyBytes primitives bytes = .ok (header, bytes.drop headerSize) := by
  unfold readVerifiedFile at read
  split at read
  · cases read
  · cases length : session.length with
    | none =>
      rw [length] at read
      cases read
    | some =>
      rw [length] at read
      dsimp only at read
      split at read
      · cases read
      · split at read
        · cases read
        · cases filled : readExact [] session.reads with
          | failed =>
            rw [filled] at read
            cases read
          | ended =>
            rw [filled] at read
            dsimp only at read
            split at read <;> cases read
          | filled =>
            rw [filled] at read
            have whole := readExact_length [] session.fits (Nat.zero_le _) filled
            exact readBody_verified whole read

/-- When its length was asked for, the file had no payload yet. -/
def appendedSession : FileSession := { choppedSession with length := some headerSize }

theorem readVerifiedFile_verified_appended :
    (∀ bytes, ¬ appendedSession.Serves bytes) ∧
      verifyBytes tabulated smallArtifact =
        .ok (headerFor tabulated [7], smallArtifact.drop headerSize) := by
  constructor
  · intro bytes serves
    exact nomatch (serves.length.trans serves.lengthAtEnd.symm)
  · exact readVerifiedFile_verified (show readVerifiedFile tabulated
      (bufferingHasher tabulated.sha256) appendedSession = _ from rfl)

end Pavis.Pvs
