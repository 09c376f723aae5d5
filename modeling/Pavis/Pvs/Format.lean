/-
The artifact format.

A 64-byte header, of which the checksum covers the payload, and an archived
configuration. The digest and the archive check are parameters. `inspect` looks
at the header and the checksum; `verify` also checks the archive.
-/

import Pavis.Library.ByteText

namespace Pavis.Pvs

open ByteText

def pavisMagic : Bytes := literal "PAVS"

def pavisVersion : Nat := 0

def pavisHashAlgorithmSha256 : Nat := 1

def headerSize : Nat := 64

def maxPayloadSize : Nat := 100 * 1024 * 1024

structure PvsHeader where
  magic : Bytes
  version : Nat
  algorithm : Nat
  checksum : Bytes
  reserved : Bytes
  deriving DecidableEq

/-- Digests and magic numbers are carried as bytes, not as the hex or lossy
text of the messages. -/
inductive PvsError where
  | io
  | tooSmall (min actual : Nat)
  | payloadTooLarge (max found : Nat)
  | headerTooShort (expected found : Nat)
  | invalidMagic (expected found : Bytes)
  | versionMismatch (file expected : Nat)
  | nonZeroReservedBytes (version : Nat)
  | unsupportedAlgorithm (algorithm : Nat)
  | checksumMismatch (expected found : Bytes)
  | corruptArchive
  | serialization (message : Text)
  deriving DecidableEq

def fromLeBytes : Bytes → Nat
  | [] => 0
  | byte :: rest => byte.toNat + 256 * fromLeBytes rest

def slice (bytes : Bytes) (first last : Nat) : Bytes := (bytes.drop first).take (last - first)

def parseHeader (buffer : Bytes) : Except PvsError PvsHeader :=
  if buffer.length < headerSize then .error (.headerTooShort headerSize buffer.length)
  else
    .ok
      { magic := slice buffer 0 4
        version := fromLeBytes (slice buffer 4 8)
        algorithm := fromLeBytes (slice buffer 8 12)
        checksum := slice buffer 12 44
        reserved := slice buffer 44 64 }

def validateHeader (header : PvsHeader) : Except PvsError Unit :=
  if header.magic ≠ pavisMagic then .error (.invalidMagic pavisMagic header.magic)
  else if header.version ≠ pavisVersion then
    .error (.versionMismatch header.version pavisVersion)
  else if header.reserved.any (fun byte => byte != 0) then
    .error (.nonZeroReservedBytes header.version)
  else if header.algorithm ≠ pavisHashAlgorithmSha256 then
    .error (.unsupportedAlgorithm header.algorithm)
  else .ok ()

/-- The digest and the archive check of the libraries behind the format. -/
structure Primitives where
  sha256 : Bytes → Bytes
  archived : Bytes → Bool

def verifyBytes (primitives : Primitives) (bytes : Bytes) : Except PvsError (PvsHeader × Bytes) :=
  if bytes.length < headerSize then .error (.tooSmall headerSize bytes.length)
  else if bytes.length > headerSize + maxPayloadSize then
    .error (.payloadTooLarge maxPayloadSize (bytes.length - headerSize))
  else
    match parseHeader (bytes.take headerSize) with
    | .error reason => .error reason
    | .ok header =>
      match validateHeader header with
      | .error reason => .error reason
      | .ok () =>
        let payload := bytes.drop headerSize
        let computed := primitives.sha256 payload
        if computed ≠ header.checksum then .error (.checksumMismatch header.checksum computed)
        else .ok (header, payload)

def inspect (primitives : Primitives) (bytes : Bytes) : Except PvsError PvsHeader :=
  match verifyBytes primitives bytes with
  | .error reason => .error reason
  | .ok (header, _) => .ok header

def verify (primitives : Primitives) (bytes : Bytes) : Except PvsError PvsHeader :=
  match verifyBytes primitives bytes with
  | .error reason => .error reason
  | .ok (header, payload) =>
    if primitives.archived payload then .ok header else .error .corruptArchive

def hexDigit (value : Nat) : UInt8 :=
  if value < 10 then UInt8.ofNat (48 + value) else UInt8.ofNat (87 + value)

def toHex (bytes : Bytes) : Text :=
  bytes.flatMap fun byte => [hexDigit (byte.toNat / 16), hexDigit (byte.toNat % 16)]

def PvsHeader.checksumHex (header : PvsHeader) : Text := toHex header.checksum

def PvsHeader.algorithmLabel (header : PvsHeader) : Text :=
  if header.algorithm = pavisHashAlgorithmSha256 then literal "sha256"
  else literal (toString header.algorithm)

/-- The name of an artifact: the digest of all its bytes. -/
def checksumForBytes (primitives : Primitives) (bytes : Bytes) : Text :=
  literal "sha256:" ++ toHex (primitives.sha256 bytes)

theorem inspect_of_verify {primitives : Primitives} {bytes : Bytes} {header : PvsHeader}
    (verified : verify primitives bytes = .ok header) : inspect primitives bytes = .ok header := by
  unfold verify at verified
  unfold inspect
  cases checked : verifyBytes primitives bytes with
  | error =>
    rw [checked] at verified
    cases verified
  | ok result =>
    obtain ⟨found, payload⟩ := result
    rw [checked] at verified
    simp only at verified
    split at verified
    · cases verified
      rfl
    · cases verified

theorem nonempty_of_verify {primitives : Primitives} {bytes : Bytes} {header : PvsHeader}
    (verified : verify primitives bytes = .ok header) : bytes ≠ [] := by
  intro empty
  subst empty
  cases verified

/-- The SHA-256 digests of two payloads and of the artifacts made from them,
with an archive check that knows just these payloads. -/
def tabulated : Primitives :=
  { sha256 := fun bytes =>
      if bytes = [7] then
        [202, 53, 135, 88, 246, 210, 126, 108, 244, 82, 114, 147, 121, 119, 167, 72, 253, 136, 57,
          29, 182, 121, 206, 218, 125, 199, 191, 31, 0, 94, 232, 121]
      else if bytes = [8] then
        [190, 234, 215, 121, 148, 207, 87, 51, 65, 236, 23, 181, 139, 191, 126, 179, 77, 39, 17,
          201, 147, 193, 217, 118, 177, 40, 179, 24, 141, 193, 130, 154]
      else if bytes.getLast? = some 7 then
        [21, 12, 223, 172, 49, 153, 223, 63, 36, 100, 226, 116, 163, 158, 88, 97, 91, 26, 152, 87,
          12, 224, 65, 78, 211, 135, 127, 65, 58, 112, 78, 6]
      else
        [94, 196, 224, 226, 188, 203, 148, 207, 128, 201, 226, 97, 172, 178, 177, 74, 80, 184, 55,
          52, 45, 91, 250, 70, 160, 119, 214, 100, 9, 179, 9, 230]
    archived := fun payload => payload == [7] || payload == [8] }

theorem length_tabulated (bytes : Bytes) : (tabulated.sha256 bytes).length = 32 := by
  dsimp only [tabulated]
  split
  · rfl
  · split
    · rfl
    · split <;> rfl

def artifactOf (payload : Bytes) : Bytes :=
  pavisMagic ++ [0, 0, 0, 0] ++ [1, 0, 0, 0] ++ tabulated.sha256 payload ++
    List.replicate 20 0 ++ payload

def smallArtifact : Bytes := artifactOf [7]

def otherArtifact : Bytes := artifactOf [8]

end Pavis.Pvs
