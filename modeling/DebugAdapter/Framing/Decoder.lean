import DebugAdapter.Framing.Header
import DebugAdapter.Protocol.Envelope
import DebugAdapter.Stream.Source

/-! # Decoding frames

Frames are read from a source one after the other. A payload that is no message leaves the
source at the start of the next frame. -/

namespace DebugAdapter.Framing

open Protocol

/-- Whether a header block is at its end. The bytes come last first. -/
def terminated : Bytes → Bool
  | 0x0A :: 0x0D :: 0x0A :: 0x0D :: _ => true
  | _ => false

/-- The header block of the next frame, without the empty line. At most `left` more bytes may
follow the ones read so far, which come last first. -/
def readBlock : (left : Nat) → (read : Bytes) → Source → Except Error Bytes × Source
  | left, read, s =>
    if terminated read then (.ok (read.drop 4).reverse, s)
    else match left with
      | 0 => (.error .headerTooLarge, s)
      | left + 1 =>
        match s.next with
        | (.ok (some b), s) => readBlock left (b :: read) s
        | (.ok none, s) =>
          (.error (if read.isEmpty then .connectionClosed else .io .unexpectedEof), s)
        | (.error e, s) => (.error (.io e), s)

/-- The bytes of a payload of which so many are missing, as far as they were received. The
first argument bounds the number of reads. -/
def readMissing : (bound missing : Nat) → Source → Option Error × Bytes × Source
  | 0, _, s => (none, [], s)
  | bound + 1, missing, s =>
    if missing = 0 then (none, [], s)
    else match s.ready with
      | (.error e, s) => (some (.io e), [], s)
      | (.ok [], s) => (some (.io .unexpectedEof), [], s)
      | (.ok bytes, s) =>
        let n := min bytes.length missing
        let (error, more, s) := readMissing bound (missing - n) (s.consume n)
        (error, bytes.take n ++ more, s)

/-- A source of frames. -/
structure Decoder where
  source : Source
  /-- The payload of the last frame that was read, as far as it was received. -/
  lastPayload : Bytes := []

namespace Decoder

/-- The length of the next payload. -/
def readHeader (d : Decoder) : Except Error Nat × Decoder :=
  match readBlock headerLimit [] d.source with
  | (.ok block, source) =>
    match contentLength? block with
    | some length => (.ok length, { d with source })
    | none => (.error .invalidContentLength, { d with source })
  | (.error e, source) => (.error e, { d with source })

/-- The next message. -/
def decode (d : Decoder) : Except Error Message × Decoder :=
  match d.readHeader with
  | (.error e, d) => (.error e, d)
  | (.ok length, d) =>
    match readMissing length length d.source with
    | (some e, received, source) => (.error e, ⟨source, received⟩)
    | (none, received, source) => (Message.ofPayload received, ⟨source, received⟩)

/-- Closes the source. -/
def close (d : Decoder) : Except IoError Unit × Decoder :=
  let (result, source) := d.source.close
  (result, { d with source })

end Decoder

end DebugAdapter.Framing
