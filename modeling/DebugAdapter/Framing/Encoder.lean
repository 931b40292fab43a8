import DebugAdapter.Framing.Header
import DebugAdapter.Protocol.Envelope
import DebugAdapter.Stream.Sink

/-! # Encoding frames

A frame is put together in a staging buffer, handed to the sink in one write and then flushed.
A message that may not be sent reaches the sink with no byte. -/

namespace DebugAdapter.Framing

open Protocol

/-- A sink of frames. -/
structure Encoder where
  sink : Sink := {}
  /-- The frame that was put together last. -/
  staging : Bytes := []
  deriving DecidableEq

namespace Encoder

/-- Nothing is staged. -/
def clear (e : Encoder) : Encoder := { e with staging := [] }

/-- Some bytes are staged after what is staged already. -/
def stage (bytes : Bytes) (e : Encoder) : Encoder := { e with staging := e.staging ++ bytes }

/-- Writes what is staged and flushes the sink. -/
def commit (e : Encoder) : Except IoError Unit × Encoder :=
  match e.sink.writeAll e.staging with
  | (.ok (), sink) =>
    let (result, sink) := sink.flush
    (result, { e with sink })
  | (.error error, sink) => (.error error, { e with sink })

/-- Writes a payload as one frame. -/
def writeFrame (payload : Bytes) (e : Encoder) : Except IoError Unit × Encoder :=
  (e.clear.stage (header payload.length) |>.stage payload).commit

/-- Writes a message as one frame. -/
def encode (m : Message) (e : Encoder) : Except Error Unit × Encoder :=
  match m.toPayload with
  | .error error => (.error error, e)
  | .ok payload =>
    let (result, e) := e.writeFrame payload
    (result.mapError .io, e)

end Encoder

end DebugAdapter.Framing
