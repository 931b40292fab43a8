import DebugAdapter.Json.Fields
import DebugAdapter.Json.Printer
import DebugAdapter.Protocol.Message

/-! # Messages as JSON

A message is printed with its sequence number and its type first, a payload last, and absent
parts left out. Reading takes two passes: the first looks for the type alone, the second reads
the fields of that type, and then the payload table chooses how the payload is read. -/

namespace DebugAdapter.Protocol

open Json

/-! ## Printing -/

/-- The members before the payload's. -/
def Message.heading (m : Message) : List (String × Value) :=
  [("seq", .int64 m.seq), ("type", .string m.kind.name)]

/-- The document of a message whose name is known. -/
def Message.document (name : String) (m : Message) : Value :=
  let optional := fun (key : String) (v : Option Value) => (v.map (key, ·)).toList
  .object <| m.heading ++ match m with
    | .request r =>
      [("command", .string name)] ++ optional "arguments" (r.arguments.map (·.toValue))
    | .response r =>
      [("request_seq", .int64 r.requestSeq), ("success", .bool r.success),
        ("command", .string name)] ++ optional "message" (r.message.map .string) ++
        optional "body" (r.body.map (·.toValue))
    | .event e =>
      [("event", .string name)] ++ optional "body" (e.body.map (·.toValue))

/-- The name of a message that may be sent. Its sequence number has to be set, a response has
to belong to a request, and the name has to agree with the payload. -/
def Message.checkedName (m : Message) : Except Error String :=
  if m.seq ≤ 0 then .error (.missingSeq m.kind)
  else match m with
    | .request r => r.resolvedCommand
    | .response r => if r.requestSeq ≤ 0 then .error .missingRequestSeq else r.resolvedCommand
    | .event e => e.resolvedEvent

/-- The bytes of a message that may be sent. -/
def Message.toPayload (m : Message) : Except Error Bytes := do
  let name ← m.checkedName
  .ok (Printer.value (m.document name))

/-! ## Reading -/

def envelopeFields : List Field := [⟨"type", .text⟩]

def requestFields : List Field :=
  [⟨"seq", .integer⟩, ⟨"command", .text⟩, ⟨"arguments", .optionalValue⟩]

def responseFields : List Field :=
  [⟨"seq", .integer⟩, ⟨"request_seq", .integer⟩, ⟨"success", .flag⟩, ⟨"command", .text⟩,
    ⟨"message", .optionalText⟩, ⟨"body", .optionalValue⟩]

def eventFields : List Field := [⟨"seq", .integer⟩, ⟨"event", .text⟩, ⟨"body", .optionalValue⟩]

/-- A result of the JSON layer as one of this layer. -/
def liftJson {α : Type} : Except Json.Error α → Except Error α
  | .ok a => .ok a
  | .error e => .error (.json e)

/-- A payload that may be absent. -/
def decodeOptional {α : Type} (decode : Value → Except Error α) :
    Option Value → Except Error (Option α)
  | none => .ok none
  | some v => (decode v).map some

/-- The type of the message that some bytes are. -/
def readKind (payload : Bytes) : Except Error MessageKind := do
  let name ← liftJson (do (← Fields.ofBytes envelopeFields payload).text "type")
  match MessageKind.ofName? name with
  | some kind => .ok kind
  | none => .error (.unrecognizedMessageType name)

def readRequest (payload : Bytes) : Except Error Request := do
  let fields ← liftJson (Fields.ofBytes requestFields payload)
  let seq ← liftJson (fields.integer "seq")
  let command ← liftJson (fields.text "command")
  let arguments ← decodeOptional (RequestArguments.decode command) (fields.value? "arguments")
  .ok { seq, command, arguments }

def readResponse (payload : Bytes) : Except Error Response := do
  let fields ← liftJson (Fields.ofBytes responseFields payload)
  let seq ← liftJson (fields.integer "seq")
  let requestSeq ← liftJson (fields.integer "request_seq")
  let success ← liftJson (fields.flag "success")
  let command ← liftJson (fields.text "command")
  let body ← decodeOptional (ResponseBody.decodeFor command success) (fields.value? "body")
  .ok { seq, requestSeq, success, command, message := fields.text? "message", body }

def readEvent (payload : Bytes) : Except Error Event := do
  let fields ← liftJson (Fields.ofBytes eventFields payload)
  let seq ← liftJson (fields.integer "seq")
  let event ← liftJson (fields.text "event")
  let body ← decodeOptional (EventBody.decode event) (fields.value? "body")
  .ok { seq, event, body }

/-- The message that some bytes are. -/
def Message.ofPayload (payload : Bytes) : Except Error Message := do
  match ← readKind payload with
  | .request => .ok (.request (← readRequest payload))
  | .response => .ok (.response (← readResponse payload))
  | .event => .ok (.event (← readEvent payload))

end DebugAdapter.Protocol
