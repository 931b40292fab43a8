import DebugAdapter.Framing.Encoder
import DebugAdapter.Session.Journal

/-! # The sending side of a session

All messages of a session go through one outbox, which numbers them. A number is used up only
by a message that was written and flushed. -/

namespace DebugAdapter.Session

open Protocol

structure Outbox where
  encoder : Framing.Encoder := {}
  /-- The number of the last message sent. -/
  seq : Nat := 0
  journal : Journal := {}
  deriving DecidableEq

namespace Outbox

/-- Where the messages go. -/
def sink (o : Outbox) : Sink := o.encoder.sink

/-- Numbers a message and writes it. The result is its number. -/
def send (m : Message) (o : Outbox) : Except Error Int64 × Outbox :=
  let seq := Int64.ofNat (o.seq + 1)
  match (m.withSeq seq).toPayload with
  | .error e => (.error e, o)
  | .ok payload =>
    match o.encoder.writeFrame payload with
    | (.error e, encoder) => (.error (.io e), { o with encoder })
    | (.ok (), encoder) =>
      (.ok seq, { encoder, seq := o.seq + 1, journal := o.journal.record (.outbound payload) })

/-- `send` without the number. -/
def post (m : Message) (o : Outbox) : Except Error Unit × Outbox :=
  let (result, o) := o.send m
  (result.map fun _ => (), o)

def event (name : String) (body : Option EventBody) (o : Outbox) : Except Error Unit × Outbox :=
  o.post (.event { event := name, body })

def eventBody (body : EventBody) (o : Outbox) : Except Error Unit × Outbox :=
  o.post (.event (.ofBody body))

def respond (request : Request) (success : Bool) (message : Option String)
    (body : Option ResponseBody) (o : Outbox) : Except Error Unit × Outbox :=
  o.post (.response (.answering request success message body))

def respondSuccess (request : Request) (body : Option ResponseBody) (o : Outbox) :
    Except Error Unit × Outbox :=
  o.respond request true none body

/-- A failed response, which is also logged. -/
def respondError (request : Request) (message : String) (o : Outbox) :
    Except Error Unit × Outbox :=
  let journal := o.journal.write .debug ("error " ++ seqText request.seq ++ ": " ++ message)
  { o with journal }.respond request false (some message) none

def record (r : TraceRecord) (o : Outbox) : Outbox :=
  { o with journal := o.journal.record r }

/-- Closes the sink. -/
def close (o : Outbox) : Except IoError Unit × Outbox :=
  let (result, sink) := o.sink.close
  (result, { o with encoder := { o.encoder with sink } })

end Outbox

end DebugAdapter.Session
