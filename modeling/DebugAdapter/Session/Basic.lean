import DebugAdapter.Framing.Decoder
import DebugAdapter.Session.Outbox

/-! # Sessions

One conversation over one connection. The client opens it with a request that introduces
itself; every later message is passed to a handler, until the handler stops or the client is
gone. Then the client is told, the handler is told, and the connection is closed. -/

namespace DebugAdapter.Session

open Protocol

/-- Whether the conversation goes on after a message. -/
inductive Flow where
  | proceed
  | stop
  deriving DecidableEq, Repr

inductive State where
  | created
  | opening
  | dispatching
  | terminating
  | closed
  deriving DecidableEq, Repr

/-- The policy of a session. A handler has a state of its own and may send at any time. It
gives up with causes, outermost first. -/
structure Handler (σ : Type) where
  welcome : InitializeArguments → σ × Outbox → Except (List String) Capabilities × σ × Outbox
  process : Message → σ × Outbox → Except (List String) Flow × σ × Outbox
  terminate : σ × Outbox → σ × Outbox

/-! ## Opening -/

/-- The name of the request that opens a session. -/
def openingCommand : String := "initialize"

/-- The request that opens a session, with its arguments, or why a message is not one. -/
def opening? : Option Message → Except String (Request × InitializeArguments)
  | none => .error "connection closed"
  | some (.response _) => .error "expected initialize request, got response"
  | some (.event _) => .error "expected initialize request, got event"
  | some (.request r) =>
    if r.command ≠ openingCommand then
      .error ("expected initialize request, got " ++ Text.quoted r.command)
    else match r.arguments with
      | some (.initialization arguments) => .ok (r, arguments)
      | _ => .error "initialize request carries no initialize arguments"

end Session

/-- One conversation over one connection. -/
structure Session (σ : Type) where
  peer : String
  decoder : Framing.Decoder
  outbox : Session.Outbox := {}
  handler : Session.Handler σ
  handlerState : σ
  state : Session.State := .created
  /-- Errors that did not decide how the session ended, the last one first. -/
  problems : List Protocol.Error := []

namespace Session

open Protocol

variable {σ : Type}

/-- The errors that did not decide how the session ended, in order. -/
def errors (s : Session σ) : List Error := s.problems.reverse

def note (s : Session σ) (e : Error) : Session σ := { s with problems := e :: s.problems }

/-- Notes the error of a result, if it is one. -/
def noteIfError {α : Type} (s : Session σ) : Except Error α → Session σ
  | .ok _ => s
  | .error e => s.note e

/-- The next message, nothing at the end of the stream. -/
def receive (s : Session σ) : Except Error (Option Message) × Session σ :=
  let (result, decoder) := s.decoder.decode
  let s := { s with decoder }
  match result with
  | .ok m => (.ok (some m), { s with outbox := s.outbox.record (.inbound decoder.lastPayload) })
  | .error .connectionClosed => (.ok none, s)
  | .error e => (.error e, { s with outbox := s.outbox.record (.failed e) })

/-- Closes both halves of the connection, the reading half first. -/
def close (s : Session σ) : Session σ :=
  let (result, decoder) := s.decoder.close
  let s := { s with decoder }.noteIfError (result.mapError .io)
  let (result, outbox) := s.outbox.close
  { s with outbox }.noteIfError (result.mapError .io)

/-- A failure to open the session, which is noted too. -/
def refuse (s : Session σ) (reason : String) : Except Error Unit × Session σ :=
  (.error (.handshake reason), s.note (.handshake reason))

/-- Opens the session: the handler answers the first request with what it can do. -/
def handshake (s : Session σ) : Except Error Unit × Session σ :=
  match s.receive with
  | (.error e, s) => (.error e, s)
  | (.ok first, s) =>
    match opening? first with
    | .error reason => s.refuse reason
    | .ok (request, arguments) =>
      let (answer, handlerState, outbox) := s.handler.welcome arguments (s.handlerState, s.outbox)
      let s := { s with handlerState, outbox }
      match answer with
      | .error causes => s.refuse (chainText causes)
      | .ok capabilities =>
        let (result, outbox) := s.outbox.respondSuccess request (some (.capabilities capabilities))
        (result, { s with outbox })

/-- Logs a request before it is processed. -/
def announce (m : Message) (o : Outbox) : Outbox :=
  match m with
  | .request r =>
    { o with journal := o.journal.write .debug (seqText r.seq ++ ": " ++ r.command) }
  | _ => o

/-- Passes a message to the handler. -/
def process (s : Session σ) (m : Message) : Except Error Flow × Session σ :=
  let (answer, handlerState, outbox) :=
    s.handler.process m (s.handlerState, announce m s.outbox)
  (match answer with
    | .ok flow => .ok flow
    | .error causes => .error (.handler causes),
    { s with handlerState, outbox })

/-- Passes messages to the handler until it stops, the stream ends or something fails. At most
so many messages are passed. -/
def dispatch : Nat → Session σ → Except Error Unit × Session σ
  | 0, s => (.ok (), s)
  | bound + 1, s =>
    match s.receive with
    | (.error e, s) => (.error e, s)
    | (.ok none, s) => (.ok (), s)
    | (.ok (some m), s) =>
      match s.process m with
      | (.error e, s) => (.error e, s)
      | (.ok .stop, s) => (.ok (), s)
      | (.ok .proceed, s) => dispatch bound s

/-- Ends the session: the client is told, then the handler, and the connection is closed. -/
def finish (s : Session σ) : Session σ :=
  let s := { s with state := .terminating }
  let (result, outbox) := s.outbox.event "terminated" none
  let s := { s with outbox }.noteIfError result
  let (handlerState, outbox) := s.handler.terminate (s.handlerState, s.outbox)
  { ({ s with handlerState, outbox } : Session σ).close with state := .closed }

/-- How many bytes the stream has left: no more messages than that can follow. -/
def unread (s : Session σ) : Nat :=
  s.decoder.source.buffer.length + s.decoder.source.feed.rest.length

/-- Runs the session from its opening to its end. It can be run once. -/
def run (s : Session σ) : Except Error Unit × Session σ :=
  if s.state ≠ .created then (.error .alreadyRun, s)
  else
    match ({ s with state := .opening } : Session σ).handshake with
    | (.error e, s) => (.error e, { s.close with state := .closed })
    | (.ok (), s) =>
      let (result, s) := dispatch (s.unread + 1) { s with state := .dispatching }
      (result, s.finish)

end Session

end DebugAdapter
