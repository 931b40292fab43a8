import DebugAdapter.Protocol.Payload

/-! # Messages

Requests, responses and events. A message may name its command or event, carry a payload that
names it, or both; the two have to agree. -/

namespace DebugAdapter.Protocol

structure Request where
  /-- The place of the message in what its sender sends, counted from one. -/
  seq : Int64 := 0
  /-- The command, empty if it is the one of the arguments. -/
  command : String := ""
  arguments : Option RequestArguments := none
  deriving DecidableEq

structure Response where
  seq : Int64 := 0
  /-- The `seq` of the request that is answered. -/
  requestSeq : Int64 := 0
  success : Bool := false
  /-- The command that is answered, empty if it is the one of the body. -/
  command : String := ""
  /-- The error in short form if `success` is false. -/
  message : Option String := none
  body : Option ResponseBody := none
  deriving DecidableEq

structure Event where
  seq : Int64 := 0
  /-- The event, empty if it is the one of the body. -/
  event : String := ""
  body : Option EventBody := none
  deriving DecidableEq

inductive Message where
  | request (request : Request)
  | response (response : Response)
  | event (event : Event)
  deriving DecidableEq

/-- The name of a message, from the one declared and the one of its payload. -/
def resolve (kind : MessageKind) (declared : String) (payload : Option String) :
    Except Error String :=
  if declared = "" then
    match payload with
    | none => .error (.missingCommand kind)
    | some name => .ok name
  else
    match payload with
    | none => .ok declared
    | some name =>
      if name = declared then .ok declared else .error (.payloadMismatch kind declared name)

namespace Request

/-- A request whose command is the one of its arguments. -/
def ofArguments (arguments : RequestArguments) : Request :=
  { command := arguments.name, arguments := some arguments }

/-- A request without arguments. -/
def bare (command : String) : Request := { command }

def resolvedCommand (r : Request) : Except Error String :=
  resolve .request r.command (r.arguments.map (·.name))

end Request

namespace Response

/-- A response to a request. -/
def answering (request : Request) (success : Bool) (message : Option String)
    (body : Option ResponseBody) : Response :=
  { requestSeq := request.seq, success, command := request.command, message, body }

def ok (request : Request) (body : Option ResponseBody) : Response :=
  answering request true none body

def failed (request : Request) (message : String) : Response :=
  answering request false (some message) none

/-- The name of the body, which an error body of a failed response does not have. -/
def payloadName (r : Response) : Option String :=
  match r.body with
  | none => none
  | some body => if body.isError && !r.success then none else some body.name

def resolvedCommand (r : Response) : Except Error String :=
  resolve .response r.command r.payloadName

end Response

namespace Event

/-- An event whose name is the one of its body. -/
def ofBody (body : EventBody) : Event := { event := body.name, body := some body }

def resolvedEvent (e : Event) : Except Error String :=
  match resolve .event e.event (e.body.map (·.name)) with
  | .error (.missingCommand _) => .error .missingEvent
  | result => result

end Event

namespace Message

def kind : Message → MessageKind
  | .request _ => .request
  | .response _ => .response
  | .event _ => .event

def seq : Message → Int64
  | .request r => r.seq
  | .response r => r.seq
  | .event e => e.seq

def withSeq (seq : Int64) : Message → Message
  | .request r => .request { r with seq }
  | .response r => .response { r with seq }
  | .event e => .event { e with seq }

end Message

end DebugAdapter.Protocol
