/-
Writing an artifact, and what the checks accept.

A header that passes the checks is the one the encoder writes for the payload behind
it. The archive library is assumed to read back what it wrote, and a digest has 32
bytes.
-/

import Mathlib.Algebra.Group.Nat.Defs
import Pavis.Pvs.Format

namespace Pavis.Pvs

open ByteText

def toLeBytes : Nat → Nat → Bytes
  | 0, _ => []
  | width + 1, value => UInt8.ofNat (value % 256) :: toLeBytes width (value / 256)

@[simp] theorem toLeBytes_length (width value : Nat) : (toLeBytes width value).length = width := by
  induction width generalizing value with
  | zero => rfl
  | succ width ih => rw [toLeBytes, List.length_cons, ih]

private theorem fromLeBytes_toLeBytes {width value : Nat} (bounded : value < 256 ^ width) :
    fromLeBytes (toLeBytes width value) = value := by
  induction width generalizing value with
  | zero =>
    rw [Nat.pow_zero] at bounded
    change 0 = value
    omega
  | succ width ih =>
    rw [Nat.pow_succ] at bounded
    have rest := ih (Nat.div_lt_of_lt_mul (by omega : value < 256 * 256 ^ width))
    rw [toLeBytes, fromLeBytes, rest, UInt8.toNat_ofNat']
    omega

private theorem toLeBytes_fromLeBytes (bytes : Bytes) :
    toLeBytes bytes.length (fromLeBytes bytes) = bytes := by
  induction bytes with
  | nil => rfl
  | cons byte rest ih =>
    have small := byte.toNat_lt
    have low : (byte.toNat + 256 * fromLeBytes rest) % 256 = byte.toNat := by omega
    have high : (byte.toNat + 256 * fromLeBytes rest) / 256 = fromLeBytes rest := by omega
    rw [List.length_cons, fromLeBytes, toLeBytes, low, high, ih, UInt8.ofNat_toNat]

private theorem fromLeBytes_lt (bytes : Bytes) : fromLeBytes bytes < 256 ^ bytes.length := by
  induction bytes with
  | nil => exact Nat.one_pos
  | cons byte =>
    have small := byte.toNat_lt
    rw [fromLeBytes, List.length_cons, Nat.pow_succ]
    omega

def PvsHeader.toBytes (header : PvsHeader) : Bytes :=
  header.magic ++ toLeBytes 4 header.version ++ toLeBytes 4 header.algorithm ++
    header.checksum ++ header.reserved

/-- The fields have the widths of their arrays and of a 32-bit number. -/
structure PvsHeader.Sized (header : PvsHeader) : Prop where
  magic : header.magic.length = 4
  version : header.version < 256 ^ 4
  algorithm : header.algorithm < 256 ^ 4
  checksum : header.checksum.length = 32
  reserved : header.reserved.length = 20

variable {header : PvsHeader} {first last : Nat}

theorem PvsHeader.Sized.toBytes_length (sized : header.Sized) :
    header.toBytes.length = headerSize := by
  simp only [PvsHeader.toBytes, List.length_append, toLeBytes_length, sized.magic, sized.checksum,
    sized.reserved]
  rfl

private theorem slice_length {bytes : Bytes} (inside : last ≤ bytes.length) :
    (slice bytes first last).length = last - first := by
  rw [slice, List.length_take, List.length_drop]
  omega

private theorem slice_of_layout {bytes : Bytes} (before middle after : Bytes)
    (layout : bytes = before ++ (middle ++ after)) (start : before.length = first)
    (stop : first + middle.length = last) : slice bytes first last = middle := by
  subst layout start stop
  rw [slice, List.drop_left, Nat.add_sub_cancel_left, List.take_left]

private theorem slice_join (bytes : Bytes) {middle : Nat} (lower : first ≤ middle)
    (upper : middle ≤ last) :
    slice bytes first middle ++ slice bytes middle last = slice bytes first last := by
  have split : last - first = (middle - first) + (last - middle) := by omega
  have next : first + (middle - first) = middle := by omega
  rw [slice, slice, slice, split, List.take_add, List.drop_drop, next]

theorem parseHeader_toBytes (sized : header.Sized) : parseHeader header.toBytes = .ok header := by
  have long : ¬header.toBytes.length < headerSize := by
    rw [sized.toBytes_length]
    exact Nat.lt_irrefl _
  obtain ⟨magicSize, versionSize, algorithmSize, checksumSize, reservedSize⟩ := sized
  have versionBytes : (toLeBytes 4 header.version).length = 4 := toLeBytes_length _ _
  have algorithmBytes : (toLeBytes 4 header.algorithm).length = 4 := toLeBytes_length _ _
  have magic : slice header.toBytes 0 4 = header.magic :=
    slice_of_layout [] _ (toLeBytes 4 header.version ++ (toLeBytes 4 header.algorithm ++
      (header.checksum ++ header.reserved))) (by simp [PvsHeader.toBytes]) rfl (by omega)
  have version : slice header.toBytes 4 8 = toLeBytes 4 header.version :=
    slice_of_layout header.magic _ (toLeBytes 4 header.algorithm ++
      (header.checksum ++ header.reserved)) (by simp [PvsHeader.toBytes]) magicSize (by omega)
  have algorithm : slice header.toBytes 8 12 = toLeBytes 4 header.algorithm :=
    slice_of_layout (header.magic ++ toLeBytes 4 header.version) _
      (header.checksum ++ header.reserved) (by simp [PvsHeader.toBytes])
      (by rw [List.length_append]; omega) (by omega)
  have checksum : slice header.toBytes 12 44 = header.checksum :=
    slice_of_layout (header.magic ++ toLeBytes 4 header.version ++ toLeBytes 4 header.algorithm) _
      header.reserved (by simp [PvsHeader.toBytes])
      (by simp only [List.length_append]; omega) (by omega)
  have reserved : slice header.toBytes 44 64 = header.reserved :=
    slice_of_layout (header.magic ++ toLeBytes 4 header.version ++ toLeBytes 4 header.algorithm ++
      header.checksum) _ [] (by simp [PvsHeader.toBytes])
      (by simp only [List.length_append]; omega) (by omega)
  rw [parseHeader, if_neg long, magic, version, algorithm, checksum, reserved,
    fromLeBytes_toLeBytes versionSize, fromLeBytes_toLeBytes algorithmSize]

private theorem toBytes_of_parseHeader {buffer : Bytes} (whole : buffer.length = headerSize)
    (parsed : parseHeader buffer = .ok header) : header.Sized ∧ header.toBytes = buffer := by
  change buffer.length = 64 at whole
  have long : ¬buffer.length < headerSize := by
    change ¬buffer.length < 64
    omega
  rw [parseHeader, if_neg long] at parsed
  cases parsed
  have magicSize : (slice buffer 0 4).length = 4 := slice_length (by omega)
  have versionSize : (slice buffer 4 8).length = 4 := slice_length (by omega)
  have algorithmSize : (slice buffer 8 12).length = 4 := slice_length (by omega)
  have checksumSize : (slice buffer 12 44).length = 32 := slice_length (by omega)
  have reservedSize : (slice buffer 44 64).length = 20 := slice_length (by omega)
  have version := toLeBytes_fromLeBytes (slice buffer 4 8)
  have algorithm := toLeBytes_fromLeBytes (slice buffer 8 12)
  have versionBound := fromLeBytes_lt (slice buffer 4 8)
  have algorithmBound := fromLeBytes_lt (slice buffer 8 12)
  rw [versionSize] at version versionBound
  rw [algorithmSize] at algorithm algorithmBound
  refine ⟨⟨magicSize, versionBound, algorithmBound, checksumSize, reservedSize⟩, ?_⟩
  rw [PvsHeader.toBytes]
  dsimp only
  rw [version, algorithm, slice_join buffer (by decide) (by decide),
    slice_join buffer (by decide) (by decide), slice_join buffer (by decide) (by decide),
    slice_join buffer (by decide) (by decide)]
  rw [slice, List.drop_zero, Nat.sub_zero, ← whole, List.take_length]

/-- The archive library and the digest: what was archived passes the archive
check and is read back, and a digest is an array of 32 bytes. -/
structure Archiver (γ : Type) where
  primitives : Primitives
  serialize : γ → Except Text Bytes
  deserialize : Bytes → Except Text γ
  digest_size : ∀ payload, (primitives.sha256 payload).length = 32
  round_trip : ∀ config payload, serialize config = .ok payload →
    primitives.archived payload = true ∧ deserialize payload = .ok config

def headerFor (primitives : Primitives) (payload : Bytes) : PvsHeader :=
  { magic := pavisMagic
    version := pavisVersion
    algorithm := pavisHashAlgorithmSha256
    checksum := primitives.sha256 payload
    reserved := List.replicate 20 0 }

def encode {γ : Type} (archiver : Archiver γ) (config : γ) : Except PvsError Bytes :=
  match archiver.serialize config with
  | .error message => .error (.serialization message)
  | .ok payload => .ok ((headerFor archiver.primitives payload).toBytes ++ payload)

/-! ### What the checks accept -/

private theorem validateHeader_headerFor (primitives : Primitives) (payload : Bytes) :
    validateHeader (headerFor primitives payload) = .ok () := rfl

private theorem headerFor_of_validateHeader {primitives : Primitives} {payload : Bytes}
    (sized : header.Sized) (valid : validateHeader header = .ok ())
    (checksum : primitives.sha256 payload = header.checksum) :
    header = headerFor primitives payload := by
  obtain ⟨magic, version, algorithm, digest, reserved⟩ := header
  dsimp only [validateHeader] at valid
  split at valid
  · cases valid
  · rename_i sameMagic
    split at valid
    · cases valid
    · rename_i sameVersion
      split at valid
      · cases valid
      · rename_i zeroed
        split at valid
        · cases valid
        · rename_i sameAlgorithm
          have zeros : reserved = List.replicate 20 0 := by
            rw [List.eq_replicate_iff]
            refine ⟨sized.reserved, fun byte listed => ?_⟩
            rw [Bool.not_eq_true, List.any_eq_false] at zeroed
            exact Decidable.not_not.mp (fun nonzero => zeroed byte listed (by simpa using nonzero))
          have sameDigest : digest = primitives.sha256 payload := checksum.symm
          rw [Decidable.not_not.mp sameMagic, Decidable.not_not.mp sameVersion,
            Decidable.not_not.mp sameAlgorithm, zeros, sameDigest]
          rfl

section Checks

variable {primitives : Primitives}

theorem headerFor_sized (digests : ∀ payload, (primitives.sha256 payload).length = 32)
    (payload : Bytes) : (headerFor primitives payload).Sized :=
  ⟨rfl, (by decide : pavisVersion < 256 ^ 4),
    (by decide : pavisHashAlgorithmSha256 < 256 ^ 4), digests payload, rfl⟩

private theorem verifyBytes_framed (digests : ∀ payload, (primitives.sha256 payload).length = 32)
    {payload : Bytes} (bounded : payload.length ≤ maxPayloadSize) :
    verifyBytes primitives ((headerFor primitives payload).toBytes ++ payload) =
      .ok (headerFor primitives payload, payload) := by
  have sized := headerFor_sized digests payload
  have front := sized.toBytes_length
  have total : ((headerFor primitives payload).toBytes ++ payload).length =
      headerSize + payload.length := by
    rw [List.length_append, front]
  have cut : ((headerFor primitives payload).toBytes ++ payload).take headerSize =
      (headerFor primitives payload).toBytes := by
    rw [← front, List.take_left]
  have rest : ((headerFor primitives payload).toBytes ++ payload).drop headerSize = payload := by
    rw [← front, List.drop_left]
  rw [verifyBytes, if_neg (by omega), if_neg (by omega), cut, parseHeader_toBytes sized]
  dsimp only
  rw [validateHeader_headerFor, rest]
  exact if_neg (fun different => different rfl)

theorem framed_of_verifyBytes {bytes payload : Bytes} {header : PvsHeader}
    (accepted : verifyBytes primitives bytes = .ok (header, payload)) :
    header = headerFor primitives payload ∧ payload = bytes.drop headerSize ∧
      bytes = header.toBytes ++ payload := by
  unfold verifyBytes at accepted
  split at accepted
  · cases accepted
  · rename_i long
    split at accepted
    · cases accepted
    · cases parsed : parseHeader (bytes.take headerSize) with
      | error =>
        rw [parsed] at accepted
        cases accepted
      | ok found =>
        rw [parsed] at accepted
        dsimp only at accepted
        cases valid : validateHeader found with
        | error =>
          rw [valid] at accepted
          cases accepted
        | ok =>
          rw [valid] at accepted
          dsimp only at accepted
          split at accepted
          · cases accepted
          · rename_i same
            cases accepted
            have whole : (bytes.take headerSize).length = headerSize := by
              rw [List.length_take]
              omega
            obtain ⟨sized, spelled⟩ := toBytes_of_parseHeader whole parsed
            refine ⟨headerFor_of_validateHeader sized valid (Decidable.not_not.mp same),
              rfl, ?_⟩
            rw [spelled, List.take_append_drop]

theorem verifyBytes_injective {left right : Bytes} {leftFound rightFound : PvsHeader × Bytes}
    (leftAccepted : verifyBytes primitives left = .ok leftFound)
    (rightAccepted : verifyBytes primitives right = .ok rightFound)
    (same : left.drop headerSize = right.drop headerSize) : left = right := by
  obtain ⟨leftHeader, leftPayload, leftWhole⟩ := framed_of_verifyBytes leftAccepted
  obtain ⟨rightHeader, rightPayload, rightWhole⟩ := framed_of_verifyBytes rightAccepted
  rw [leftWhole, rightWhole, leftHeader, rightHeader, leftPayload, rightPayload, same]

end Checks

/-- The format round-trips, and an accepted artifact is the one that would be
written for its payload. -/
theorem format_canonical {γ : Type} (archiver : Archiver γ) :
    (∀ config payload, archiver.serialize config = .ok payload →
      payload.length ≤ maxPayloadSize →
      ∃ bytes, encode archiver config = .ok bytes ∧
        verifyBytes archiver.primitives bytes =
          .ok (headerFor archiver.primitives payload, payload) ∧
        archiver.deserialize payload = .ok config) ∧
    (∀ bytes found, verifyBytes archiver.primitives bytes = .ok found →
      found = (headerFor archiver.primitives (bytes.drop headerSize), bytes.drop headerSize) ∧
        bytes = (headerFor archiver.primitives (bytes.drop headerSize)).toBytes ++
          bytes.drop headerSize) ∧
    (∀ left right leftFound rightFound,
      verifyBytes archiver.primitives left = .ok leftFound →
      verifyBytes archiver.primitives right = .ok rightFound →
      left.drop headerSize = right.drop headerSize → left = right) ∧
    (∀ bytes changed found, verifyBytes archiver.primitives bytes = .ok found →
      changed.drop headerSize = bytes.drop headerSize → changed ≠ bytes →
      ∃ reason, verifyBytes archiver.primitives changed = .error reason) := by
  refine ⟨?_, ?_, ?_, ?_⟩
  · intro config payload written bounded
    refine ⟨_, ?_, verifyBytes_framed archiver.digest_size bounded,
      (archiver.round_trip config payload written).2⟩
    rw [encode, written]
  · rintro bytes ⟨header, payload⟩ accepted
    obtain ⟨sameHeader, samePayload, whole⟩ := framed_of_verifyBytes accepted
    rw [← samePayload]
    exact ⟨by rw [sameHeader], by rw [← sameHeader]; exact whole⟩
  · intro left right leftFound rightFound leftAccepted rightAccepted same
    exact verifyBytes_injective leftAccepted rightAccepted same
  · intro bytes changed found accepted same different
    cases outcome : verifyBytes archiver.primitives changed with
    | error reason => exact ⟨reason, rfl⟩
    | ok => exact absurd (verifyBytes_injective outcome accepted same) different

def tabulatedArchiver : Archiver Bool where
  primitives := tabulated
  serialize flag := .ok (if flag then [7] else [8])
  deserialize payload := if payload = [7] then .ok true else .ok false
  digest_size := length_tabulated
  round_trip flag payload written := by
    cases written
    cases flag <;> decide

theorem small_artifact_canonical :
    (∃ bytes, encode tabulatedArchiver true = .ok bytes ∧
      verifyBytes tabulated bytes = .ok (headerFor tabulated [7], [7]) ∧
      tabulatedArchiver.deserialize [7] = .ok true) ∧
    ∃ reason, verifyBytes tabulated (85 :: smallArtifact.drop 1) = .error reason := by
  have canonical := format_canonical tabulatedArchiver
  exact ⟨canonical.1 true [7] rfl (by decide),
    canonical.2.2.2 smallArtifact _ (headerFor tabulated [7], [7]) (by decide) (by decide)
      (by decide)⟩

end Pavis.Pvs
