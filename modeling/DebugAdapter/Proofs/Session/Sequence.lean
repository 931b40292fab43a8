import DebugAdapter.Proofs.Framing.Encoder
import DebugAdapter.Proofs.Protocol.Names
import DebugAdapter.Session.Outbox

/-! # Messages are numbered without gaps

The clones of the sending side of a session share one outbox, so what they do together is a run of
calls in the order in which they get hold of it. Whatever that order is and whichever calls fail,
the frames on the wire are those of the calls that succeeded, numbered from one, as long as a write
that fails has taken nothing. -/

namespace DebugAdapter.Session

open Protocol

/-! ## Calls -/

/-- A call to the sending side. -/
inductive Call where
  | send (m : Message)
  | event (name : String) (body : Option EventBody)
  | eventBody (body : EventBody)
  | respond (request : Request) (success : Bool) (message : Option String)
      (body : Option ResponseBody)
  | respondSuccess (request : Request) (body : Option ResponseBody)
  | respondError (request : Request) (message : String)

namespace Call

/-- The message of a call, as its caller numbered it. -/
def message : Call → Message
  | send m => m
  | event name body => .event { event := name, body }
  | eventBody body => .event (.ofBody body)
  | respond request success message body => .response (.answering request success message body)
  | respondSuccess request body => .response (.answering request true none body)
  | respondError request message => .response (.answering request false (some message) none)

/-- What a call returns if its message gets a number: only `send` tells it. -/
def reply : Call → Int64 → Option Int64
  | send _, number => some number
  | _, _ => none

/-- Performs a call. The result is the number of the message, if the call tells it. -/
def perform (c : Call) (o : Outbox) : Except Error (Option Int64) × Outbox :=
  let untold := fun (outcome : Except Error Unit × Outbox) => (outcome.1.map fun _ => none, outcome.2)
  match c with
  | send m => ((o.send m).1.map some, (o.send m).2)
  | event name body => untold (o.event name body)
  | eventBody body => untold (o.eventBody body)
  | respond request success message body => untold (o.respond request success message body)
  | respondSuccess request body => untold (o.respondSuccess request body)
  | respondError request message => untold (o.respondError request message)

/-- The outbox a call sends its message through, in which a failed response is logged before. -/
def prepare (c : Call) (o : Outbox) : Outbox :=
  match c with
  | respondError request message =>
    { o with journal := o.journal.write .debug ("error " ++ seqText request.seq ++ ": " ++ message) }
  | _ => o

theorem perform_eq (c : Call) (o : Outbox) :
    c.perform o =
      (((c.prepare o).send c.message).1.map c.reply, ((c.prepare o).send c.message).2) := by
  have huntold : ∀ outcome : Except Error Int64 × Outbox,
      ((outcome.1.map fun _ => ()).map fun _ => (none : Option Int64), outcome.2) =
        (outcome.1.map fun _ => none, outcome.2) := by
    rintro ⟨_ | _, _⟩ <;> rfl
  cases c with
  | send m => rfl
  | event | eventBody | respond | respondSuccess | respondError => exact huntold _

end Call

/-! ## What one message adds -/

/-- The payload begins with the number of its message. -/
def Carries (k : Nat) (payload : Bytes) : Prop :=
  ∃ rest, payload = Utf8.encode "\x7b\"seq\":" ++ Decimal.encode k ++ 0x2C :: rest

/-- A payload is the one of a message with a number, whatever number the message had before. -/
structure Numbered (k : Nat) (m : Message) (payload : Bytes) : Prop where
  payload_eq : (m.withSeq (Int64.ofNat k)).toPayload = .ok payload
  toInt_eq : (Int64.ofNat k).toInt = k
  carries : Carries k payload

/-- The records of some payloads that are sent. -/
def Journal.sent (j : Journal) (payloads : List Bytes) : List TraceRecord :=
  if j.traced then payloads.map .outbound else []

theorem Journal.traced_record (j : Journal) (r : TraceRecord) : (j.record r).traced = j.traced := by
  unfold record
  split <;> rfl

theorem Journal.trace_record (j : Journal) (payload : Bytes) :
    (j.record (.outbound payload)).trace = j.trace ++ j.sent [payload] := by
  unfold record sent
  split
  · exact List.reverse_cons
  · exact (List.append_nil _).symm

theorem Journal.sent_append (j : Journal) (first second : List Bytes) :
    j.sent (first ++ second) = j.sent first ++ j.sent second := by
  unfold sent
  split
  · exact List.map_append
  · rfl

theorem Journal.sent_nil (j : Journal) : j.sent [] = [] := by
  unfold sent
  split <;> rfl

theorem Journal.sent_of_traced_eq {j j' : Journal} (h : j'.traced = j.traced)
    (payloads : List Bytes) : j'.sent payloads = j.sent payloads := by
  rw [sent, sent, h]

/-- Some payloads were sent: each is a frame on the wire and a record of the trace, if there is a
trace, and used up a number. -/
structure Grew (payloads : List Bytes) (o o' : Outbox) : Prop where
  seq_eq : o'.seq = o.seq + payloads.length
  bytes_eq : o'.sink.bytes = o.sink.bytes ++ payloads.flatMap Framing.frame
  traced_eq : o'.journal.traced = o.journal.traced
  trace_eq : o'.journal.trace = o.journal.trace ++ o.journal.sent payloads
  clean : o'.sink.Clean

theorem Grew.of_bytes_eq {o o' : Outbox} (hseq : o'.seq = o.seq)
    (hbytes : o'.sink.bytes = o.sink.bytes) (htraced : o'.journal.traced = o.journal.traced)
    (htrace : o'.journal.trace = o.journal.trace) (hclean : o'.sink.Clean) :
    Grew [] o o' where
  seq_eq := hseq
  bytes_eq := by rw [hbytes, List.flatMap_nil, List.append_nil]
  traced_eq := htraced
  trace_eq := by rw [htrace, Journal.sent_nil, List.append_nil]
  clean := hclean

theorem Grew.trans {first second : List Bytes} {o p q : Outbox} (h : Grew first o p)
    (h' : Grew second p q) : Grew (first ++ second) o q where
  seq_eq := by rw [h'.seq_eq, h.seq_eq, List.length_append, Nat.add_assoc]
  bytes_eq := by rw [h'.bytes_eq, h.bytes_eq, List.flatMap_append, List.append_assoc]
  traced_eq := h'.traced_eq.trans h.traced_eq
  trace_eq := by
    rw [h'.trace_eq, h.trace_eq, Journal.sent_of_traced_eq h.traced_eq, Journal.sent_append,
      List.append_assoc]
  clean := h'.clean

theorem seq_withSeq (seq : Int64) (m : Message) : (m.withSeq seq).seq = seq := by
  cases m <;> rfl

/-- The numbers of messages that may be sent are positive, so they never wrap around. -/
theorem numbered_of_toPayload {k : Nat} {m : Message} {payload : Bytes} (hk : k ≤ 2 ^ 63)
    (h : (m.withSeq (Int64.ofNat k)).toPayload = .ok payload) : Numbered k m payload := by
  obtain ⟨hpos, -, hpayload⟩ := Message.toPayload_ok h
  rw [seq_withSeq] at hpos
  have htoInt : (Int64.ofNat k).toInt = k := by
    rcases Nat.lt_or_eq_of_le hk with hlt | rfl
    · exact Int64.toInt_ofNat_of_lt hlt
    · exact absurd hpos (by decide)
  refine ⟨h, htoInt, ?_⟩
  obtain ⟨rest, hrest⟩ := Message.exists_print_document
    (m.withSeq (Int64.ofNat k)).resolvedName (m.withSeq (Int64.ofNat k))
  refine ⟨rest, ?_⟩
  rw [hpayload, hrest, seq_withSeq, htoInt, Decimal.encodeInt, if_neg (by omega), Int.natAbs_natCast]

/-- A message is sent under the next number, or nothing happens. -/
theorem send_spec (m : Message) {o : Outbox} (hclean : o.sink.Clean) :
    (∃ e o', o.send m = (.error e, o') ∧ Grew [] o o') ∨
      ∃ payload o', o.send m = (.ok (Int64.ofNat (o.seq + 1)), o') ∧ Grew [payload] o o' ∧
        (m.withSeq (Int64.ofNat (o.seq + 1))).toPayload = .ok payload := by
  unfold Outbox.send
  dsimp only
  split
  · rename_i e heq
    exact .inl ⟨e, o, rfl, .of_bytes_eq rfl rfl rfl rfl hclean⟩
  · rename_i payload hpayload
    obtain ⟨hclean', hbytes⟩ := Framing.Encoder.writeFrame_spec payload hclean
    split
    · rename_i e encoder hwrite
      rw [hwrite] at hbytes hclean'
      exact .inl ⟨_, _, rfl, .of_bytes_eq rfl (hbytes.trans (List.append_nil _)) rfl rfl hclean'⟩
    · rename_i encoder hwrite
      rw [hwrite] at hbytes hclean'
      refine .inr ⟨payload, _, rfl, ⟨rfl, ?_, ?_, ?_, hclean'⟩, hpayload⟩
      · rw [List.flatMap_singleton]
        exact hbytes
      · exact Journal.traced_record _ _
      · exact Journal.trace_record _ _

theorem Call.prepare_spec (c : Call) {o : Outbox} (hclean : o.sink.Clean) :
    Grew [] o (c.prepare o) := by
  cases c <;> exact .of_bytes_eq rfl rfl rfl rfl hclean

/-- A call sends its message under the next number, or nothing happens. -/
theorem Call.perform_spec (c : Call) {o : Outbox} (hclean : o.sink.Clean) :
    (∃ e o', c.perform o = (.error e, o') ∧ Grew [] o o') ∨
      ∃ payload o', c.perform o = (.ok (c.reply (Int64.ofNat (o.seq + 1))), o') ∧
        Grew [payload] o o' ∧
          (c.message.withSeq (Int64.ofNat (o.seq + 1))).toPayload = .ok payload := by
  have hprepare := c.prepare_spec hclean
  have hseq : (c.prepare o).seq = o.seq := hprepare.seq_eq
  rw [perform_eq]
  rcases send_spec c.message hprepare.clean with
    ⟨e, o', heq, hgrew⟩ | ⟨payload, o', heq, hgrew, hpayload⟩
  · rw [heq]
    exact .inl ⟨e, o', rfl, hprepare.trans hgrew⟩
  · rw [hseq] at heq hpayload
    rw [heq]
    exact .inr ⟨payload, o', rfl, hprepare.trans hgrew, hpayload⟩

/-! ## Runs -/

/-- A call of one of the clones. They all share one outbox, so which one it is makes no
difference. -/
structure Turn where
  clone : Nat
  call : Call

/-- A call and what it returned. -/
abbrev Entry := Turn × Except Error (Option Int64)

/-- Performs calls in the order in which their clones get hold of the outbox. -/
def runTurns : List Turn → Outbox → List Entry × Outbox
  | [], o => ([], o)
  | turn :: turns, o =>
    let (result, o) := turn.call.perform o
    let (log, o) := runTurns turns o
    ((turn, result) :: log, o)

/-- The calls that succeeded. -/
def accepted (log : List Entry) : List Entry := log.filter (·.2.isOk)

theorem runTurns_cons (turn : Turn) (turns : List Turn) (o : Outbox) :
    runTurns (turn :: turns) o =
      ((turn, (turn.call.perform o).1) :: (runTurns turns (turn.call.perform o).2).1,
        (runTurns turns (turn.call.perform o).2).2) := rfl

/-- The payload of an accepted call has the number that the call returns. -/
structure Accepted (k : Nat) (entry : Entry) (payload : Bytes) : Prop where
  numbered : Numbered k entry.1.call.message payload
  result_eq : entry.2 = .ok (entry.1.call.reply (Int64.ofNat k))

theorem lt_of_numbered {k : Nat} {m : Message} {payload : Bytes} (h : Numbered k m payload) :
    k < 2 ^ 63 := by
  have hlt := (Int64.ofNat k).toInt_lt
  rw [h.toInt_eq] at hlt
  omega

theorem runTurns_spec (turns : List Turn) {o : Outbox} (hclean : o.sink.Clean)
    (hseq : o.seq < 2 ^ 63) :
    ∃ payloads, Grew payloads o (runTurns turns o).2 ∧
      payloads.length = (accepted (runTurns turns o).1).length ∧
      ∀ k entry payload, (accepted (runTurns turns o).1)[k]? = some entry →
        payloads[k]? = some payload → Accepted (o.seq + (k + 1)) entry payload := by
  induction turns generalizing o with
  | nil => exact ⟨[], .of_bytes_eq rfl rfl rfl rfl hclean, rfl, by simp [runTurns, accepted]⟩
  | cons turn turns ih =>
    rw [runTurns_cons]
    rcases turn.call.perform_spec hclean with
      ⟨e, o', heq, hgrew⟩ | ⟨payload, o', heq, hgrew, hpayload⟩
    · have hseq' : o'.seq = o.seq := hgrew.seq_eq
      obtain ⟨payloads, hrest, hlength, haccepted⟩ := ih hgrew.clean (hseq' ▸ hseq)
      rw [heq]
      rw [hseq'] at haccepted
      exact ⟨payloads, hgrew.trans hrest, hlength, haccepted⟩
    · have hnumbered := numbered_of_toPayload hseq hpayload
      have hseq' : o'.seq = o.seq + 1 := hgrew.seq_eq
      obtain ⟨payloads, hrest, hlength, haccepted⟩ :=
        ih hgrew.clean (hseq' ▸ lt_of_numbered hnumbered)
      rw [heq]
      refine ⟨payload :: payloads, hgrew.trans hrest, congrArg (· + 1) hlength, ?_⟩
      intro k entry other hentry hother
      cases k with
      | zero =>
        obtain rfl := Option.some.inj hentry
        obtain rfl := Option.some.inj hother
        exact ⟨hnumbered, rfl⟩
      | succ k =>
        have hk : o.seq + (k + 1 + 1) = o'.seq + (k + 1) := by omega
        rw [hk]
        exact haccepted k entry other hentry hother

/-- Whatever the clones of a session send in whatever order, the wire gets one frame for each call
that succeeds, and the `k`-th of them has the number `k`, which the call returns. A call that
fails changes neither the numbering nor the wire nor the trace. A frame may be taken in parts, if
what fails has taken nothing. -/
theorem runTurns_gapless (turns : List Turn) {o : Outbox} (hfresh : o.seq = 0)
    (hclean : o.sink.Clean) :
    ∃ payloads, Grew payloads o (runTurns turns o).2 ∧
      payloads.length = (accepted (runTurns turns o).1).length ∧
      (∀ k entry payload, (accepted (runTurns turns o).1)[k]? = some entry →
        payloads[k]? = some payload → Accepted (k + 1) entry payload) ∧
      ∀ earlier (call : Call) e o', call.perform (runTurns earlier o).2 = (.error e, o') →
        o'.seq = (runTurns earlier o).2.seq ∧ o'.sink.bytes = (runTurns earlier o).2.sink.bytes ∧
          o'.journal.trace = (runTurns earlier o).2.journal.trace := by
  have hbound : o.seq < 2 ^ 63 := by omega
  obtain ⟨payloads, hgrew, hlength, haccepted⟩ := runTurns_spec turns hclean hbound
  simp only [hfresh, Nat.zero_add] at haccepted
  refine ⟨payloads, hgrew, hlength, haccepted, ?_⟩
  intro earlier call e o' hperform
  obtain ⟨_, hearlier, -⟩ := runTurns_spec earlier hclean hbound
  rcases call.perform_spec hearlier.clean with ⟨_, _, heq, hnothing⟩ | ⟨_, _, heq, -⟩
  · obtain ⟨-, rfl⟩ := Prod.mk.inj (hperform.symm.trans heq)
    refine ⟨hnothing.seq_eq, ?_, ?_⟩
    · rw [hnothing.bytes_eq, List.flatMap_nil, List.append_nil]
    · rw [hnothing.trace_eq, Journal.sent_nil, List.append_nil]
  · exact nomatch (Prod.mk.inj (hperform.symm.trans heq)).1

/-- The second write will fail, and something is left in the staging buffer. -/
def faultyOutbox : Outbox where
  encoder := { sink := { writes := .only 2 .brokenPipe }, staging := [0x21] }
  journal := { traced := true }

/-- Two clones send an event with a number of its own, a response to no request, an event while
writes fail, and an event that gets through. -/
def mixedTurns : List Turn := [
  ⟨0, .send (.event { seq := 99, event := "process" })⟩,
  ⟨1, .respondSuccess { command := "threads" } none⟩,
  ⟨1, .event "module" none⟩,
  ⟨0, .eventBody (.exited ⟨3⟩)⟩]

theorem faultyOutbox_clean : faultyOutbox.sink.Clean where
  flushes := .always rfl
  untorn := Sink.Intact.untorn ⟨by decide, rfl⟩

theorem runTurns_gapless_mixedTurns :
    faultyOutbox.seq = 0 ∧ faultyOutbox.sink.Clean ∧
      (runTurns mixedTurns faultyOutbox).2.seq = 2 ∧
      ∃ payloads, Grew payloads faultyOutbox (runTurns mixedTurns faultyOutbox).2 ∧
        payloads.length = 2 ∧
        ∀ k entry payload, (accepted (runTurns mixedTurns faultyOutbox).1)[k]? = some entry →
          payloads[k]? = some payload → Accepted (k + 1) entry payload := by
  have hclean : faultyOutbox.sink.Clean := faultyOutbox_clean
  obtain ⟨payloads, hgrew, hlength, haccepted, -⟩ := runTurns_gapless mixedTurns rfl hclean
  have htwo : (accepted (runTurns mixedTurns faultyOutbox).1).length = 2 := by decide +kernel
  have hseq : (runTurns mixedTurns faultyOutbox).2.seq = 2 := by
    rw [hgrew.seq_eq, hlength, htwo]
    rfl
  exact ⟨rfl, hclean, hseq, payloads, hgrew, hlength.trans htwo, haccepted⟩

end DebugAdapter.Session
