import DebugAdapter.Evaluation.System

/-! # Runs

A run of a system is any sequence of moves: steps of its threads in any order, and in between
whatever the client does and whatever stops are reported beside the evaluation. What happens in it
is written down: messages, the items of the queue, and the stops with how they end. -/

namespace DebugAdapter.Evaluation

open Debuggee Protocol Session

/-- What may change a system. -/
inductive Move where
  | step (actor : Actor)
  /-- The client sends bytes. -/
  | deliver (bytes : Bytes)
  /-- The client sends no more. -/
  | hangUp
  /-- A thread that the engine runs beside the evaluation reports a stop. -/
  | report (stop : DebugStop)
  deriving DecidableEq

/-- One thread after the other makes so many steps. -/
def turns (steps : List (Nat × Actor)) : List Move :=
  steps.flatMap fun (n, actor) => List.replicate n (.step actor)

/-- Something that happens in a move. -/
inductive Happening where
  /-- The session begins to work on a message. -/
  | handled (m : Message)
  /-- A thread posted a message. Some bytes of it have reached the wire. -/
  | posted (sender : Actor) (m : Message) (result : Except Error Unit) (bytes : Bytes)
  /-- The evaluation put an item into the queue. -/
  | enqueued (item : Item)
  /-- A thread beside the evaluation put a stop into the queue. -/
  | reported (stop : DebugStop) (c : Channel)
  /-- The pump took an item out of the queue. -/
  | taken (item : Item)
  /-- The pump put a stop into the table of the threads that are stopped. -/
  | recorded (event : StopEvent)
  /-- The session took a stop out of the table, because a request told its thread to go on. -/
  | accepted (request : Request) (event : StopEvent)
  /-- The session told the thread on a channel to go on. -/
  | resumed (c : Channel)
  /-- The wait on a channel ended: the thread was resumed, or nobody was left to resume it. -/
  | returned (c : Channel) (goesOn : Bool)

/-- Whether a thread beside the evaluation reported a stop. -/
def Happening.isReport : Happening → Bool
  | .reported _ _ => true
  | _ => false

/-- What a happening adds to the wire. -/
def Happening.bytes : Happening → Bytes
  | .posted _ _ _ bytes => bytes
  | _ => []

/-- A message that got through is on the wire as one frame. -/
def Happening.IsFramed : Happening → Prop
  | .posted _ m (.ok ()) bytes =>
    ∃ seq payload, (m.withSeq seq).toPayload = .ok payload ∧ bytes = Framing.frame payload
  | _ => True

namespace System

/-! ## What happens -/

/-- A message was posted through an outbox, with an outcome. -/
def posting (sender : Actor) (m : Message) (o : Outbox) (outcome : Except Error Unit × Outbox) :
    Happening :=
  .posted sender m outcome.1 (outcome.2.sink.bytes.drop o.sink.bytes.length)

/-- The answer to the request that opens a session. -/
def welcoming (request : Request) : Response := .ok request (some (.capabilities capabilities))

/-- What happens when a message arrives. The first request is answered at once. -/
def arriving (s : System) (m : Message) : List Happening :=
  if s.session.state = .dispatching then [.handled m]
  else match opening? (some m) with
    | .error _ => []
    | .ok (request, _) =>
      [.handled m,
        posting .session (.response (welcoming request)) s.outbox
          (s.outbox.respondSuccess request (some (.capabilities capabilities)))]

/-- What happens when the session hears from the client. -/
def hearing (s : System) : List Happening :=
  match s.session.decoder.decode with
  | (.ok m, decoder) =>
    { s with outbox := s.outbox.record (.inbound decoder.lastPayload) }.arriving m
  | _ => []

/-- What happens when the session performs a task. -/
def performing (s : System) : Task → List Happening
  | .send m => [posting .session m s.outbox (s.outbox.post m)]
  | .fail request text =>
    [posting .session (.response (.failed request text)) s.outbox
      (s.outbox.respondError request text)]
  | .release request arguments =>
    ((s.registries.events.get? arguments.threadId).map (.accepted request)).toList
  | .resume => (s.session.held.map fun event => .resumed event.resume).toList
  | .farewell =>
    [posting .session (.event { event := "terminated" }) s.outbox (s.outbox.event "terminated" none)]
  | _ => []

def sessionHappenings (s : System) : List Happening :=
  match s.session.work with
  | task :: _ => s.performing task
  | [] => s.hearing

def pumpHappenings (s : System) : List Happening :=
  match s.pump with
  | .send m :: _ => [posting .pump m s.outbox (s.outbox.post m)]
  | .retain event :: _ => [.recorded event]
  | _ :: _ => []
  | [] => (s.queue.items.head?.map .taken).toList

/-- An item is put into the queue, if somebody takes it. -/
def enqueuing (s : System) (item : Item) : List Happening :=
  if s.queue.received then [.enqueued item] else []

/-- A stop is put into the queue from beside the evaluation, if somebody takes it. -/
def reporting (s : System) (stop : DebugStop) : List Happening :=
  if s.queue.received then [.reported stop s.channels] else []

/-- The wait on a channel ends, if it does. -/
def returning (s : System) (c : Channel) : List Happening :=
  ((s.verdict? c).map (.returned c)).toList

def engineHappenings (s : System) : List Happening :=
  match s.engine with
  | .running (.write category bytes _) =>
    if bytes.isEmpty then [] else s.enqueuing (.output category (Utf8.decodeLossy bytes))
  | .running (.stop report _ _) => s.enqueuing (.stopped report s.channels)
  | .running (.stopAside report _) => s.enqueuing (.stopped report s.channels)
  | .waiting c _ _ => s.returning c
  | .finishing (item :: _) => s.enqueuing item
  | _ => []

/-! ## Moves -/

/-- The system after a move, nothing if the thread has to wait. -/
def move? (s : System) : Move → Option System
  | .step actor => s.step? actor
  | .deliver bytes => some (s.deliver bytes)
  | .hangUp => some s.hangUp
  | .report stop => s.reportAside? stop

/-- What happens in a move that is possible. -/
def happenings (s : System) : Move → List Happening
  | .step .session => s.sessionHappenings
  | .step .pump => s.pumpHappenings
  | .step .engine => s.engineHappenings
  | .step (.aside c) => s.returning c
  | .deliver _ => []
  | .hangUp => []
  | .report stop => s.reporting stop

/-- Makes moves one after the other, without those that are not possible when it is their turn.
The result is what happened. -/
def play : List Move → System → List Happening × System
  | [], s => ([], s)
  | move :: moves, s =>
    match s.move? move with
    | none => play moves s
    | some t =>
      let (log, u) := play moves t
      (s.happenings move ++ log, u)

/-- A session that nobody has spoken to yet, over a connection. -/
def starting (script : Script) (decoder : Framing.Decoder) (outbox : Outbox) : System where
  script
  outbox
  session := { decoder }

theorem play_append (first second : List Move) (s : System) :
    play (first ++ second) s =
      ((play first s).1 ++ (play second (play first s).2).1, (play second (play first s).2).2) := by
  induction first generalizing s with
  | nil => rfl
  | cons move moves ih =>
    rw [List.cons_append, play, play]
    split
    · exact ih s
    · dsimp only
      rw [ih]
      dsimp only
      rw [List.append_assoc]

/-- What holds at the beginning of a run, and after each of its moves if it did before, holds at the
end of the run. -/
theorem play_induction_mem {s : System} {P : List Happening → System → Prop} {moves : List Move}
    (start : P [] s)
    (step : ∀ log t, ∀ move ∈ moves, ∀ u, P log t → t.move? move = some u →
      P (log ++ t.happenings move) u) :
    P (play moves s).1 (play moves s).2 := by
  suffices h : ∀ log t, P log t → P (log ++ (play moves t).1) (play moves t).2 from h [] s start
  induction moves with
  | nil =>
    intro log t h
    rw [play, List.append_nil]
    exact h
  | cons move moves ih =>
    have htail := ih fun log t other hother => step log t other (List.mem_cons_of_mem _ hother)
    intro log t h
    rw [play]
    split
    · exact htail log t h
    · rename_i u hmove
      dsimp only
      rw [← List.append_assoc]
      exact htail _ u (step log t move List.mem_cons_self u h hmove)

/-- The same for what every move preserves. -/
theorem play_induction {s : System} {P : List Happening → System → Prop} (start : P [] s)
    (step : ∀ log t move u, P log t → t.move? move = some u → P (log ++ t.happenings move) u)
    (moves : List Move) : P (play moves s).1 (play moves s).2 :=
  play_induction_mem start fun log t move _ u => step log t move u

/-- And for what may be concluded from the whole run so far. -/
theorem play_induction_last {s : System} {P : List Happening → System → Prop} (start : P [] s)
    (step : ∀ before move u, P (play before s).1 (play before s).2 →
      (play before s).2.move? move = some u →
        P ((play before s).1 ++ (play before s).2.happenings move) u)
    (moves : List Move) : P (play moves s).1 (play moves s).2 := by
  suffices h : ∀ before, P (play before s).1 (play before s).2 →
      P (play (before ++ moves) s).1 (play (before ++ moves) s).2 from h [] start
  induction moves with
  | nil =>
    intro before h
    rw [List.append_nil]
    exact h
  | cons move moves ih =>
    intro before h
    rw [List.append_cons]
    refine ih (before ++ [move]) ?_
    rw [play_append, play]
    cases hmove : (play before s).2.move? move with
    | none =>
      dsimp only [play]
      rw [List.append_nil]
      exact h
    | some u =>
      dsimp only [play]
      rw [List.append_nil]
      exact step before move u h hmove

end System

end DebugAdapter.Evaluation
