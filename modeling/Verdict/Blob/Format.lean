import Verdict.Blob.Blake3
import Verdict.Blob.Payload
import Verdict.Condition.Reading
import Verdict.Condition.Writing

/-!
# Blobs

A blob is a document in binary form: a header of 32 bytes and a payload. The header holds four
bytes of magic, the versions of format and engine in two bytes each, four reserved bytes, the length
of the payload in four, and the first sixteen bytes of its hash; numbers are stored lowest byte
first.

* `BlobError`: why bytes are not a blob, or hold no condition;
* `encode`, `decode`: the blob of a document, and the document of a blob. The faults of a blob are
  looked for in this order: header length, magic, version, payload length, checksum, payload bytes,
  token count, nesting, depth. Bytes behind the payload are left alone. A text in the payload that
  states more bytes than there are, and than there is room for, ends the program;
* `Condition.toBytes`, `Condition.ofBytes`: the same for conditions.
-/

namespace Verdict

namespace Blob

/-- The first bytes of a blob. -/
def magic : Bytes := [0x43, 0x46, 0x4C, 0x57]

/-- The version of the format. -/
def formatVersion : Nat := 1

/-- The version of the engine, for information only. -/
def engineVersion : Nat := 1

/-- The number of bytes of the header. -/
def headerLength : Nat := 32

/-- The part of the hash of a payload that the header holds. -/
def checksum (payload : Bytes) : Bytes := (blake3 payload).take 16

/-- The header for a payload. The length field holds the lowest four bytes of the length. -/
def header (payload : Bytes) : Bytes :=
  magic ++ littleEndian 2 formatVersion ++ littleEndian 2 engineVersion ++ littleEndian 4 0 ++
    littleEndian 4 payload.length ++ checksum payload

/-- The blob of a document. -/
def encode (tokens : List Token) : Bytes :=
  let payload := (Payload.ofTokens tokens).encode
  header payload ++ payload

/-- The bytes of a blob from `start` on, at most `length` of them. -/
def slice (blob : Bytes) (start length : Nat) : Bytes := (blob.drop start).take length

end Blob

/-- Why bytes are not a blob, or hold no condition. -/
inductive BlobError where
  | badMagic
  | incompatibleVersion (found supported : Nat)
  | checksumMismatch
  | lengthMismatch (expected actual : Nat)
  /-- The payload does not hold tokens. -/
  | undecodable
  /-- The payload does not hold what it says. -/
  | invalid (fault : Blob.PayloadFault)
  | read (error : ReadError)
  deriving DecidableEq

/-- The text of an error. -/
def BlobError.message : BlobError → String
  | .badMagic => "not a condflow binary: invalid magic bytes"
  | .incompatibleVersion found supported =>
    s!"incompatible format version: blob is v{found}, engine supports v{supported}"
  | .checksumMismatch => "integrity check failed: BLAKE3 checksum mismatch"
  | .lengthMismatch expected actual =>
    s!"payload length mismatch: expected {expected} bytes, got {actual}"
  | .undecodable => "failed to decode payload"
  | .invalid fault => s!"validation failed: {fault.message}"
  | .read error => error.message

namespace Blob

/-- The document of a blob, on a machine with this much room. -/
def decode (room : Nat) (blob : Bytes) : Outcome BlobError (List Token) :=
  if blob.length < headerLength then .error (.lengthMismatch headerLength blob.length)
  else if slice blob 0 4 ≠ magic then .error .badMagic
  else
    let version := fromLittleEndian (slice blob 4 2)
    let length := fromLittleEndian (slice blob 12 4)
    let payload := slice blob headerLength length
    if version ≠ formatVersion then .error (.incompatibleVersion version formatVersion)
    else if blob.length < headerLength + length then
      .error (.lengthMismatch length (blob.length - headerLength))
    else if checksum payload ≠ slice blob 16 16 then .error .checksumMismatch
    else
      match Payload.decode room payload with
      | .crash => .crash
      | .error () => .error .undecodable
      | .ok (p, _) =>
        match p.check with
        | .error fault => .error (.invalid fault)
        | .ok () => .ok p.tokens

end Blob

namespace Condition

variable {P : Type}

/-- The blob of a condition. -/
def toBytes [LeafCodec P] (c : Condition P) : Except WriteError Blob.Bytes :=
  c.toTokens.map Blob.encode

/-- The condition of a blob, read under a registry. What stands behind the condition is left
    alone. -/
def ofBytes (room : Nat) (registry : Registry P) (blob : Blob.Bytes) :
    Outcome BlobError (Condition P) := do
  let tokens ← Blob.decode room blob
  .ofExcept (((Reader.read { registry }).run (.ofTokens tokens)).1.mapError .read)

end Condition

end Verdict
