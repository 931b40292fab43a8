import DebugAdapter.Json.Error
import DebugAdapter.Stream.Error
import DebugAdapter.Text.Quoted

/-! # Errors

What can go wrong in a conversation, by cause, and the text that reports it. -/

namespace DebugAdapter

namespace Protocol

inductive MessageKind where
  | request
  | response
  | event
  deriving DecidableEq, Repr

def MessageKind.name : MessageKind → String
  | .request => "request"
  | .response => "response"
  | .event => "event"

def MessageKind.ofName? (name : String) : Option MessageKind :=
  [.request, .response, .event].find? fun kind => kind.name == name

/-- At most so many bytes belong to the header of one frame. -/
def headerLimit : Nat := 8192

inductive Error where
  | invalidContentLength
  | headerTooLarge
  /-- The stream ended between two frames. -/
  | connectionClosed
  | io (e : IoError)
  | json (e : Json.Error)
  | unrecognizedMessageType (name : String)
  | unrecognizedCommand (name : String)
  | unrecognizedEvent (name : String)
  | missingSeq (kind : MessageKind)
  | missingRequestSeq
  | missingCommand (kind : MessageKind)
  | missingEvent
  | payloadMismatch (kind : MessageKind) (declared payload : String)
  | handshake (reason : String)
  | alreadyRun
  /-- The handler gave up; the causes come outermost first. -/
  | handler (causes : List String)
  deriving DecidableEq, Repr

/-- The text of causes, outermost first. -/
def chainText (causes : List String) : String := ": ".intercalate causes

namespace Error

/-- The text of an error. Of a malformed document no more is told than that it is one. -/
def message : Error → String
  | .invalidContentLength => "invalid or missing Content-Length header"
  | .headerTooLarge => "header block exceeds " ++ toString headerLimit ++ " bytes"
  | .connectionClosed => "connection closed"
  | .io e => e.message
  | .json _ => "malformed message"
  | .unrecognizedMessageType name => "unrecognized message type " ++ Text.quoted name
  | .unrecognizedCommand name => "unrecognized command " ++ Text.quoted name
  | .unrecognizedEvent name => "unrecognized event " ++ Text.quoted name
  | .missingSeq kind => kind.name ++ " sequence number is not set"
  | .missingRequestSeq => "response is not correlated to a request (request_seq is not set)"
  | .missingCommand kind => kind.name ++ " has neither a command nor a payload"
  | .missingEvent => "event has neither a name nor a body"
  | .payloadMismatch kind declared payload =>
    kind.name ++ " names " ++ Text.quoted declared ++ " but its payload belongs to " ++
      Text.quoted payload
  | .handshake reason => "initialize handshake failed: " ++ reason
  | .alreadyRun => "session already run"
  | .handler causes => chainText causes

/-- Whether an error ends a stream between two frames rather than inside one. -/
def isClosed : Error → Bool
  | .connectionClosed => true
  | _ => false

end Error

end Protocol

end DebugAdapter
