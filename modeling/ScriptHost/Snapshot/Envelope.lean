import ScriptHost.Failure
import ScriptHost.Snapshot.Blake3
import ScriptHost.Text.Utf8

/-!
# Snapshot envelopes

The bytes in which a backend captures its state are sealed in an envelope that names the backend and
holds a digest, so that foreign, cut or altered bytes are refused before a backend sees them. The
layout is: four magic bytes, the format version, the size of the name in two bytes with the higher
one first, the name, the 32 bytes of the digest of name and payload, and the payload.

Sealing and opening work with any function from bytes to 32 bytes; `Blake3.digest` is the one in
use.

## Main definitions

* `ScriptHost.Envelope` — the name of a backend and its payload.
* `ScriptHost.Envelope.toBytes` — the bytes of an envelope.
* `ScriptHost.Envelope.ofBytes` — the envelope in some bytes.
* `ScriptHost.Envelope.verify` — refuses the envelope of another backend.
-/

namespace ScriptHost

/-- A function from bytes to digests. -/
abbrev Digest := List UInt8 → Vector UInt8 32

/-- The bytes of a backend together with its name. -/
structure Envelope where
  /-- The name of the backend. -/
  backend : String
  /-- The bytes of the backend. -/
  payload : List UInt8
deriving DecidableEq

namespace Envelope

/-- The bytes with which a sealed envelope begins. -/
def magic : List UInt8 := [0x54, 0x54, 0x48, 0x52]

/-- The version of the format. -/
def formatVersion : UInt8 := 1

/-- The number of bytes before the name: magic, version and the size of the name. -/
def headerSize : Nat := 7

/-- The number of bytes of a digest. -/
def digestSize : Nat := 32

/-- The first size of a name that does not fit two bytes. -/
def nameBound : Nat := UInt16.size

/-- The bytes that the digest of an envelope is taken of. -/
def digested (name payload : List UInt8) : List UInt8 :=
  name ++ payload

/-- The size of a name in two bytes, the higher one first. -/
def sizeBytes (size : Nat) : List UInt8 :=
  [UInt8.ofNat (size / 256), UInt8.ofNat size]

/-- The bytes of an envelope with the given bytes of the name. -/
def layout (digest : Digest) (name payload : List UInt8) : List UInt8 :=
  magic ++ [formatVersion] ++ sizeBytes name.length ++ name ++
    (digest (digested name payload)).toList ++ payload

/-- The bytes of an envelope; the name must fit the header. -/
def toBytes (digest : Digest) (envelope : Envelope) : Except CaptureFault (List UInt8) :=
  let name := Text.bytes envelope.backend
  if name.length < nameBound then .ok (layout digest name envelope.payload)
  else .error (.nameTooLong name.length)

/-- The envelope whose name, digest and payload stand in some bytes, the name first. -/
def ofBody (digest : Digest) (nameSize : Nat) (body : List UInt8) :
    Except SealFault Envelope :=
  if body.length < nameSize + digestSize then .error .truncated
  else
    let name := body.take nameSize
    let recorded := (body.drop nameSize).take digestSize
    let payload := body.drop (nameSize + digestSize)
    if (digest (digested name payload)).toList ≠ recorded then .error .checksum
    else
      match Text.ofBytes? name with
      | none => .error .nameNotUtf8
      | some backend => .ok { backend, payload }

/-- The envelope in some bytes. -/
def ofBytes (digest : Digest) (bytes : List UInt8) : Except SealFault Envelope :=
  if bytes.length < headerSize then .error (.tooShort bytes.length)
  else if bytes.take magic.length ≠ magic then .error .noMagic
  else
    match bytes.drop magic.length with
    | version :: high :: low :: body =>
      if version ≠ formatVersion then .error (.version version)
      else ofBody digest (256 * high.toNat + low.toNat) body
    | _ => .error .truncated

/-- Refuses the envelope of another backend. -/
def verify (envelope : Envelope) (expected : String) : Except SnapshotFault Unit :=
  if envelope.backend = expected then .ok ()
  else .error (.backendMismatch expected envelope.backend)

end Envelope

end ScriptHost
