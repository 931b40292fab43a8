import DebugAdapter.Proofs.Framing.Frames
import DebugAdapter.Proofs.Session.Lifecycle
import DebugAdapter.Proofs.Session.Sequence

/-! # A session among other senders

The thread of a session shares the sending side with clones of it, and everybody shares the trace.
A frame is written and recorded under the lock of the sending side, but the trace has a lock of
its own, so what was received and what others remark can be recorded in between. A run is therefore an
interleaving of steps that are smaller than calls: a frame is read, a frame is written, a record is
made, the handler is called, the handler answers. While the handler is at work, what it sends is
sent like what any clone sends. -/

namespace DebugAdapter.Session

open Protocol Framing

/-! ## Sending in two steps -/

namespace Outbox

/-- Numbers a message and writes it; its record is still to be made. The result is its number and
its payload. -/
def write (m : Message) (o : Outbox) : Except Error (Int64 × Bytes) × Outbox :=
  let seq := Int64.ofNat (o.seq + 1)
  match (m.withSeq seq).toPayload with
  | .error e => (.error e, o)
  | .ok payload =>
    match o.encoder.writeFrame payload with
    | (.error e, encoder) => (.error (.io e), { o with encoder })
    | (.ok (), encoder) => (.ok (seq, payload), { o with encoder, seq := o.seq + 1 })

/-- A message is sent by writing it and making its record. -/
theorem send_eq (m : Message) (o : Outbox) :
    o.send m = match o.write m with
      | (.error e, o) => (.error e, o)
      | (.ok (number, payload), o) => (.ok number, o.record (.outbound payload)) := by
  unfold send write
  dsimp only
  cases (m.withSeq (Int64.ofNat (o.seq + 1))).toPayload with
  | error e => rfl
  | ok payload =>
    dsimp only
    rcases o.encoder.writeFrame payload with ⟨_ | _, encoder⟩ <;> rfl

end Outbox

/-! ## The thread of the session -/

/-- Where the thread of a session stands. Until the session is opened it waits for the message
that opens it. -/
inductive Stage where
  | reading (opened : Bool)
  /-- A message was decoded and is not recorded yet. -/
  | arrived (opened : Bool) (m : Message)
  /-- A frame could not be decoded, which is not recorded yet. -/
  | failed (opened : Bool) (e : Error)
  | noted (opened : Bool) (m : Message)
  | welcoming (request : Request)
  | answering (request : Request) (capabilities : Capabilities)
  | processing
  | parting (result : Except Error Unit)
  | terminating (result : Except Error Unit)
  | closing (result : Except Error Unit)
  | ended (result : Except Error Unit)

namespace Stage

/-- Where a session stands that ends, told to the client if it was opened. -/
def leave (opened : Bool) (result : Except Error Unit) : Stage :=
  if opened then .parting result else .closing result

def afterRead (opened : Bool) : Except Error Message → Stage
  | .ok m => .arrived opened m
  | .error .connectionClosed =>
    leave opened (if opened then .ok () else .error (.handshake "connection closed"))
  | .error e => .failed opened e

theorem afterRead_error {e : Error} (he : e ≠ .connectionClosed) (opened : Bool) :
    afterRead opened (.error e) = .failed opened e := by
  cases e <;> first | rfl | exact absurd rfl he

/-- What the session does on its own, nothing of which is seen outside. -/
inductive Passes : Stage → Stage → Prop where
  | unfit {m reason} (h : opening? (some m) = .error reason) :
      Passes (.noted false m) (.closing (.error (.handshake reason)))
  | welcomed {request} (capabilities : Capabilities) :
      Passes (.welcoming request) (.answering request capabilities)
  | unwelcome {request} (causes : List String) :
      Passes (.welcoming request) (.closing (.error (.handshake (chainText causes))))
  | proceeded : Passes .processing (.reading true)
  | stopped : Passes .processing (.parting (.ok ()))
  | gaveUp (causes : List String) : Passes .processing (.parting (.error (.handler causes)))
  | terminated {result} : Passes (.terminating result) (.closing result)

def afterAnswer : Except Error Unit → Stage
  | .ok () => .reading true
  | .error e => .closing (.error e)

/-- What the session itself sends, and where it stands after that, by what comes of it. -/
inductive Sends : Stage → Call → (Except Error Unit → Stage) → Prop where
  | answer {request capabilities} :
      Sends (.answering request capabilities)
        (.respondSuccess request (some (.capabilities capabilities))) afterAnswer
  | farewell {result} :
      Sends (.parting result) (.event "terminated" none) fun _ => .terminating result

end Stage

/-! ## Steps -/

/-- The lock of the sending side, with the payload that was written and is not recorded yet. -/
structure Lock where
  /-- Whether the thread of the session has it. -/
  own : Bool
  payload : Bytes

/-- A session and all that its clones share with it. -/
structure Traffic where
  decoder : Decoder
  outbox : Outbox
  stage : Stage := .reading false
  lock : Option Lock := none

/-- What happens in a run. -/
inductive Incident where
  /-- A frame was read, with its payload as far as it was received. -/
  | read (result : Except Error Message) (payload : Bytes)
  /-- The handler was called for a message. -/
  | called (m : Message)
  /-- A frame with a payload was written. -/
  | wrote (payload : Bytes)
  | recorded (r : TraceRecord)

namespace Traffic

/-- The thread of the session is not in the middle of sending. -/
def IsFree (s : Traffic) : Prop := ∀ lock ∈ s.lock, lock.own = false

theorem IsFree.of_unlocked {s : Traffic} (h : s.lock = none) : s.IsFree := by
  simp [IsFree, h]

/-- What the session does next, or somebody else. -/
inductive Step (s : Traffic) : List Incident → Traffic → Prop where
  | read {opened result d} (hfree : s.IsFree) (hstage : s.stage = .reading opened)
      (hdecode : s.decoder.decode = (result, d)) :
      Step s [.read result d.lastPayload]
        { s with decoder := d, stage := .afterRead opened result }
  | noted {opened m} (hfree : s.IsFree) (hstage : s.stage = .arrived opened m) :
      Step s [.recorded (.inbound s.decoder.lastPayload)]
        { s with outbox := arrived s.decoder s.outbox, stage := .noted opened m }
  | reported {opened e} (hfree : s.IsFree) (hstage : s.stage = .failed opened e) :
      Step s [.recorded (.failed e)]
        { s with outbox := s.outbox.record (.failed e), stage := .leave opened (.error e) }
  | welcomes {m request arguments} (hfree : s.IsFree) (hstage : s.stage = .noted false m)
      (hfit : opening? (some m) = .ok (request, arguments)) :
      Step s [.called m] { s with stage := .welcoming request }
  | processes {m} (hfree : s.IsFree) (hstage : s.stage = .noted true m) :
      Step s [.called m] { s with outbox := announce m s.outbox, stage := .processing }
  | passes {next} (hfree : s.IsFree) (hstage : s.stage.Passes next) :
      Step s [] { s with stage := next }
  | sends {call next number payload o} (hlock : s.lock = none) (hstage : s.stage.Sends call next)
      (hwrite : (call.prepare s.outbox).write call.message = (.ok (number, payload), o)) :
      Step s [.wrote payload]
        { s with outbox := o, stage := next (.ok ()), lock := some ⟨true, payload⟩ }
  | fails {call next e o} (hlock : s.lock = none) (hstage : s.stage.Sends call next)
      (hwrite : (call.prepare s.outbox).write call.message = (.error e, o)) :
      Step s [] { s with outbox := o, stage := next (.error e) }
  | closes {result} (hlock : s.lock = none) (hstage : s.stage = .closing result) :
      Step s [] { s with
        decoder := s.decoder.close.2, outbox := s.outbox.close.2, stage := .ended result }
  /-- A clone sends, at any time at which it gets the lock. -/
  | cloneSends {number payload o} (call : Call) (hlock : s.lock = none)
      (hwrite : (call.prepare s.outbox).write call.message = (.ok (number, payload), o)) :
      Step s [.wrote payload] { s with outbox := o, lock := some ⟨false, payload⟩ }
  | cloneFails {e o} (call : Call) (hlock : s.lock = none)
      (hwrite : (call.prepare s.outbox).write call.message = (.error e, o)) :
      Step s [] { s with outbox := o }
  /-- Whoever has the lock makes the record and gives the lock back. -/
  | unlocks {lock} (hlock : s.lock = some lock) :
      Step s [.recorded (.outbound lock.payload)]
        { s with outbox := s.outbox.record (.outbound lock.payload), lock := none }
  /-- Somebody else adds a line to the trace. -/
  | remarks (text : String) :
      Step s [.recorded (.note text)] { s with outbox := s.outbox.record (.note text) }

/-- Any number of steps, with what happened in them. -/
inductive Run (s : Traffic) : List Incident → Traffic → Prop where
  | nil : Run s [] s
  | snoc {history t new u} (h : Run s history t) (hstep : Step t new u) : Run s (history ++ new) u

theorem Run.trans {s t u : Traffic} {first second : List Incident} (h : Run s first t)
    (h' : Run t second u) : Run s (first ++ second) u := by
  induction h' with
  | nil => exact (List.append_nil first).symm ▸ h
  | snoc _ hstep ih => exact List.append_assoc .. ▸ ih.snoc hstep

/-- At most one thing happens in a step. -/
theorem Step.length_le {s t : Traffic} {new : List Incident} (h : Step s new t) :
    new.length ≤ 1 := by
  cases h <;> simp

/-- Whatever happened in a run happened in a step that was reached by what happened before. -/
theorem Run.split {s t : Traffic} {history before after : List Incident} {i : Incident}
    (h : Run s history t) (hsplit : history = before ++ i :: after) :
    ∃ u v, Run s before u ∧ Step u [i] v := by
  induction h generalizing after with
  | nil => exact absurd hsplit (by simp)
  | @snoc history u new v hrun hstep ih =>
    rcases List.eq_nil_or_concat new with rfl | ⟨front, last, rfl⟩
    · rw [List.append_nil] at hsplit
      exact ih hsplit
    · have hfront : front = [] := by
        have hlength := hstep.length_le
        rw [List.concat_eq_append, List.length_append, List.length_singleton] at hlength
        exact List.length_eq_zero_iff.mp (by omega)
      subst hfront
      rw [List.concat_eq_append, List.nil_append] at hstep hsplit
      rcases List.eq_nil_or_concat after with rfl | ⟨middle, other, rfl⟩
      · obtain ⟨rfl, hlast⟩ := List.append_inj' hsplit rfl
        obtain rfl := List.singleton_inj.mp hlast
        exact ⟨u, v, hrun, hstep⟩
      · rw [List.concat_eq_append, ← List.cons_append, ← List.append_assoc] at hsplit
        exact ih (List.append_inj' hsplit rfl).1

end Traffic

end DebugAdapter.Session
