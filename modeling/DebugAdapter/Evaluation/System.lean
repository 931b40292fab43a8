import DebugAdapter.Evaluation.Task

/-! # A session with its evaluation

The state that the session, the pump and the threads of the engine share, and the steps of each
of them. Any thread that can make a step may make the next one, so a run of the system is any
sequence of steps. -/

namespace DebugAdapter.Evaluation

open Debuggee Protocol Session

/-- The thread that reads from the client. -/
structure SessionThread where
  decoder : Framing.Decoder
  /-- Whether the client will send no more. -/
  ended : Bool := false
  state : State := .created
  /-- Whether the evaluation was started. -/
  started : Bool := false
  /-- What is left to do before the next message is read. -/
  work : List Task := []
  /-- The stop that the request at hand is about. -/
  held : Option StopEvent := none
  /-- How the session ends, once that is known. -/
  result : Except Error Unit := .ok ()
  /-- Errors that do not decide how the session ends, the last one first. -/
  problems : List Error := []

/-- The thread on which the program is evaluated. -/
inductive EngineThread where
  | idle
  | running (script : Script)
  /-- Waits on a channel to be resumed or refused. -/
  | waiting (resume : Channel) (resumed refused : Script)
  /-- The evaluation is over, and its last items go into the queue. -/
  | finishing (items : List Item)
  | ended
  deriving DecidableEq

structure System where
  /-- What the engine does once it is started. -/
  script : Script
  outbox : Outbox := {}
  registries : Registries := {}
  /-- Whether the context of the evaluation is done. -/
  cancelled : Bool := false
  queue : Queue := {}
  /-- How many channels were made so far. -/
  channels : Nat := 0
  /-- The channels on which a thread was told to go on. -/
  signals : List Channel := []
  session : SessionThread
  pump : List PumpTask := []
  engine : EngineThread := .idle
  /-- The channels on which further threads of the engine wait. -/
  aside : List Channel := []
  /-- How the stops ended that are over: whether they were resumed. The last one comes first. -/
  answers : List (Channel × Bool) := []

/-- Who makes the next step. -/
inductive Actor where
  | session
  | pump
  | engine
  /-- A further thread of the engine, which waits on a channel. -/
  | aside (resume : Channel)
  deriving DecidableEq

namespace System

/-! ## Channels -/

/-- Whether an item holds the sending end of a channel. -/
def itemHolds (c : Channel) : Item → Bool
  | .stopped _ resume => resume == c
  | _ => false

/-- Whether a task of the pump holds the sending end of a channel. -/
def taskHolds (c : Channel) : PumpTask → Bool
  | .retain event => event.resume == c
  | .record _ resume _ _ _ => resume == c
  | _ => false

/-- Whether anybody can still tell the thread on a channel to go on. -/
def isHeld (s : System) (c : Channel) : Bool :=
  s.queue.items.any (itemHolds c) || s.pump.any (taskHolds c) ||
    s.registries.events.entries.any (·.2.resume == c) ||
    s.session.held.any (·.resume == c)

/-- What the thread on a channel learns: to go on, or that nobody will tell it to. Nothing while
it has to wait. -/
def verdict? (s : System) (c : Channel) : Option Bool :=
  if c ∈ s.signals then some true else if s.isHeld c then none else some false

/-! ## The session -/

def withWork (s : System) (work : List Task) : System :=
  { s with session := { s.session with work } }

/-- Notes the error of a result that does not decide how the session ends. -/
def noteIfError {α : Type} (s : System) : Except Error α → System
  | .ok _ => s
  | .error e => { s with session := { s.session with problems := e :: s.session.problems } }

/-- The session ends with a result. An open session says farewell first. -/
def endWith (s : System) (result : Except Error Unit) : System :=
  let opened := s.session.state == State.dispatching
  { s with session := { s.session with
      result, held := none
      state := if opened then .terminating else s.session.state
      work := if opened then farewellTasks else [.close] } }

/-- What follows after an attempt to send during the work on a message. -/
def sent (s : System) (work : List Task) : Except Error Unit × Outbox → System
  | (.ok (), outbox) => { s with outbox }.withWork work
  | (.error e, outbox) =>
    { s with outbox }.endWith
      (.error (if s.session.state = State.dispatching then .handler [e.message] else e))

/-- The session cannot be opened, for a reason that is noted too. -/
def refuse (s : System) (reason : String) : System :=
  (s.noteIfError (.error (α := Unit) (.handshake reason))).endWith (.error (.handshake reason))

/-- A message arrives, or the end of the stream. -/
def arrive (s : System) (m : Option Message) : System :=
  if s.session.state = State.dispatching then
    match m with
    | none => s.endWith (.ok ())
    | some m =>
      { s with outbox := announce m s.outbox }.withWork (planMessage s.session.started m)
  else
    match opening? m with
    | .error reason => s.refuse reason
    | .ok (request, _) =>
      match s.outbox.respondSuccess request (some (.capabilities capabilities)) with
      | (.ok (), outbox) =>
        { s with outbox, session := { s.session with state := .dispatching } }
      | result => s.sent [] result

/-- Whether a result means that the stream does not reach to the end of a message yet. -/
def isIncomplete : Except Error Message → Bool
  | .error .connectionClosed => true
  | .error (.io .unexpectedEof) => true
  | _ => false

/-- Reads the next message. Nothing happens while it is not there yet. -/
def receive? (s : System) : Option System :=
  let (result, decoder) := s.session.decoder.decode
  if isIncomplete result && !s.session.ended then none
  else
    let session := { s.session with
      decoder, state := if s.session.state = State.created then .opening else s.session.state }
    let s := { s with session }
    some <| match result with
      | .ok m =>
        { s with outbox := s.outbox.record (.inbound decoder.lastPayload) }.arrive (some m)
      | .error .connectionClosed => s.arrive none
      | .error e => { s with outbox := s.outbox.record (.failed e) }.endWith (.error e)

/-- Closes both halves of the connection. -/
def close (s : System) : System :=
  let (result, decoder) := s.session.decoder.close
  let s := { s with session := { s.session with decoder } }.noteIfError (result.mapError .io)
  let (result, outbox) := s.outbox.close
  let s := { s with outbox }.noteIfError (result.mapError .io)
  { s with session := { s.session with state := .closed, work := [] } }

/-- What a client is told about a thread that is not stopped. -/
def notStopped (thread : Int64) : String := "Thread " ++ seqText thread ++ " is not stopped"

/-- One task of the session, with the tasks that follow it. -/
def perform (s : System) (rest : List Task) : Task → System
  | .send m => s.sent rest (s.outbox.post m)
  | .fail request text => s.sent rest (s.outbox.respondError request text)
  | .start =>
    let s := s.withWork rest
    if s.session.started || s.cancelled then s
    else { s with engine := .running s.script, session := { s.session with started := true } }
  | .cancel => { s with cancelled := true }.withWork rest
  | .findStop request arguments =>
    match s.registries.events.get? arguments.threadId with
    | none => s.withWork (.fail request (notStopped arguments.threadId) :: rest)
    | some event =>
      { s with session := { s.session with held := some event } }.withWork
        (.findFrames request arguments event.frameIds [] :: rest)
  | .findFrames request arguments ids found =>
    match ids with
    | id :: ids =>
      let found := match s.registries.frames.get? id with
        | some frame => found ++ [frame.listed id]
        | none => found
      s.withWork (.findFrames request arguments ids found :: rest)
    | [] =>
      let body : StackTraceBody :=
        { stackFrames := page arguments.startFrame arguments.levels found
          totalFrames := some (Int64.ofNat found.length) }
      s.withWork (.respond request (some (.stackTrace body)) :: rest)
  | .findScopes request arguments =>
    s.withWork <| match s.registries.frames.get? arguments.frameId.toInt with
      | some frame => .respond request (some (.scopes { scopes := frame.scopes })) :: rest
      | none => .fail request ("Invalid frame id " ++ seqText arguments.frameId) :: rest
  | .findVariables request arguments =>
    s.withWork <| match s.registries.locals.get? arguments.variablesReference.toInt with
      | some found =>
        .respond request (some (.variableList
          { members := page arguments.start arguments.count found })) :: rest
      | none =>
        .fail request ("Invalid variables reference " ++
          seqText arguments.variablesReference) :: rest
  | .release request arguments =>
    match s.registries.events.release arguments.threadId with
    | (none, _) => s.withWork (.fail request (notStopped arguments.threadId) :: rest)
    | (some event, events) =>
      { s with
        registries := { s.registries with events }
        session := { s.session with held := some event } }.withWork
        (.purgeFrames :: .purgeVariables ::
          .respond request (some (.resumed { allThreadsContinued := some false })) ::
          .send (.event (.ofBody (.continued
            { threadId := arguments.threadId, allThreadsContinued := some false }))) ::
          .resume :: rest)
  | .purgeEvents =>
    let registries := { s.registries with events := s.registries.events.purge }
    { s with registries }.withWork rest
  | .purgeFrames =>
    let registries := { s.registries with frames := s.registries.frames.purge }
    { s with registries }.withWork rest
  | .purgeVariables =>
    let registries := { s.registries with locals := s.registries.locals.purge }
    { s with registries }.withWork rest
  | .resume =>
    { s with signals := (s.session.held.map StopEvent.resume).toList ++ s.signals }.withWork rest
  | .decide wasStarted flow =>
    let s := { s with session := { s.session with held := none } }.withWork rest
    let justStarted := !wasStarted && s.session.started
    if flow = .stop || (s.cancelled && !justStarted) then s.endWith (.ok ()) else s
  | .farewell =>
    let (result, outbox) := s.outbox.event "terminated" none
    { s with outbox }.noteIfError result |>.withWork rest
  | .close => s.close

/-! ## The pump -/

/-- One task of the pump, with the tasks that follow it. -/
def pumpPerform (s : System) (rest : List PumpTask) : PumpTask → System
  | .send m => let (_, outbox) := s.outbox.post m; { s with outbox, pump := rest }
  | .cancel => { s with cancelled := true, pump := rest }
  | .purgeEvents =>
    let registries := { s.registries with events := s.registries.events.purge }
    { s with registries, pump := rest }
  | .purgeFrames =>
    let registries := { s.registries with frames := s.registries.frames.purge }
    { s with registries, pump := rest }
  | .purgeVariables =>
    let registries := { s.registries with locals := s.registries.locals.purge }
    { s with registries, pump := rest }
  | .listStopped =>
    { s with pump := s.registries.events.threads.map .findStop ++ rest }
  | .findStop thread =>
    { s with pump := match s.registries.events.get? thread with
        | some event => .retain { event with frameIds := [] } :: rest
        | none => rest }
  | .retain event =>
    let (_, events) := s.registries.events.retain event.thread event
    { s with registries := { s.registries with events }, pump := rest }
  | .record report resume ids scopes frames =>
    match frames with
    | [] => { s with pump := .retain ⟨report.thread, ids, resume⟩ :: rest }
    | frame :: frames =>
      match frame.scopes[scopes.length]? with
      | some scope =>
        let (handle, locals) := s.registries.locals.add scope.listed
        { s with
          registries := { s.registries with locals }
          pump := .record report resume ids (scopes ++ [scope.scope handle]) (frame :: frames) ::
            rest }
      | none =>
        let (id, table) := s.registries.frames.add (.ofInfo frame scopes)
        { s with
          registries := { s.registries with frames := table }
          pump := .record report resume (ids ++ [id]) [] frames :: rest }
  | .announce report =>
    { s with pump := if s.cancelled
        then .purgeEvents :: .purgeFrames :: .purgeVariables :: rest
        else .send (.event (.ofBody (.stopped report.body))) :: rest }

/-- A step of the pump, which takes the next item when it is done with the one before. -/
def pump? (s : System) : Option System :=
  match s.pump with
  | task :: rest => some (s.pumpPerform rest task)
  | [] =>
    match s.queue.pop with
    | (some item, queue) => some { s with queue, pump := planItem item }
    | (none, _) => none

/-! ## The engine -/

/-- Puts a stop into the queue, under a new channel. -/
def report (s : System) (report : DebugStop) : System :=
  let (_, queue) := s.queue.push (.stopped report s.channels)
  { s with queue, channels := s.channels + 1 }

/-- Notes how a stop ended. -/
def answer (s : System) (c : Channel) (resumed : Bool) : System :=
  { s with answers := (c, resumed) :: s.answers }

/-- A step of the thread on which the program is evaluated. -/
def engine? (s : System) : Option System :=
  match s.engine with
  | .idle => none
  | .running (.finish outcome) => some { s with engine := .finishing outcome.items }
  | .running (.write category bytes next) =>
    let (_, queue) := s.queue.write category bytes
    some { s with queue, engine := .running next }
  | .running (.stop report resumed refused) =>
    some { s.report report with engine := .waiting s.channels resumed refused }
  | .running (.stopAside report next) =>
    some { s.report report with engine := .running next, aside := s.aside ++ [s.channels] }
  | .running (.awaitEnd next) =>
    if s.cancelled then some { s with engine := .running next } else none
  | .waiting c resumed refused =>
    (s.verdict? c).map fun goesOn =>
      { s.answer c goesOn with engine := .running (if goesOn then resumed else refused) }
  | .finishing (item :: items) =>
    let (result, queue) := s.queue.push item
    let lost := match item, result with
      | .terminated, .error _ => true
      | _, _ => false
    some { s with queue, engine := .finishing items, cancelled := s.cancelled || lost }
  | .finishing [] => some { s with engine := .ended }
  | .ended => none

/-- A thread that the engine runs beside the evaluation reports a stop and waits. It may do so any
number of times, and longer than the evaluation lasts, but not before there is an engine. -/
def reportAside? (s : System) (report : DebugStop) : Option System :=
  match s.engine with
  | .idle => none
  | _ => some { s.report report with aside := s.aside ++ [s.channels] }

/-- A step of a further thread of the engine, whose wait ends when it is resumed or refused. -/
def aside? (s : System) (c : Channel) : Option System :=
  if c ∈ s.aside then
    (s.verdict? c).map fun goesOn => { s.answer c goesOn with aside := s.aside.erase c }
  else none

/-! ## Runs -/

/-- A step of the session. -/
def session? (s : System) : Option System :=
  match s.session.work with
  | task :: rest => some (s.perform rest task)
  | [] => if s.session.state = State.closed then none else s.receive?

/-- A step of one of the threads, nothing if it has to wait. -/
def step? (s : System) : Actor → Option System
  | .session => s.session?
  | .pump => s.pump?
  | .engine => s.engine?
  | .aside c => s.aside? c

/-- The threads that there are, those first that go first when several could make a step. -/
def actors (s : System) : List Actor := [.session, .pump, .engine] ++ s.aside.map .aside

/-- Steps until every thread has to wait, at most so many. -/
def settle : Nat → System → System
  | 0, s => s
  | bound + 1, s =>
    match s.actors.findSome? s.step? with
    | some s => settle bound s
    | none => s

/-- The client sends more bytes. -/
def deliver (s : System) (bytes : Bytes) : System :=
  let source := s.session.decoder.source
  let feed := { source.feed with rest := source.feed.rest ++ bytes }
  { s with session := { s.session with
      decoder := { s.session.decoder with source := { source with feed } } } }

/-- The client sends no more. -/
def hangUp (s : System) : System := { s with session := { s.session with ended := true } }

end System

end DebugAdapter.Evaluation
