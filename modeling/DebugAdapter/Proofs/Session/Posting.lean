import DebugAdapter.Proofs.Session.Sequence

/-! # What becomes of a message that is posted

Whatever happens to a message, the wire keeps what it has. Over a connection that works a message
that keeps to the protocol gets through, as long as there are numbers left. -/

namespace DebugAdapter

open Protocol

/-! ## Messages that keep to the protocol -/

namespace Protocol

/-- Under any number that is positive the message may be sent. -/
def Message.Sendable (m : Message) : Prop :=
  ∀ seq : Int64, 0 < seq → ∃ payload, (m.withSeq seq).toPayload = .ok payload

theorem Event.sendable {e : Event} (hevent : e.event ≠ "")
    (hbody : ∀ name ∈ e.body.map (·.name), name = e.event) : (Message.event e).Sendable := by
  intro seq hseq
  refine @Message.toPayload_of_checkedName _ e.event ?_
  simp only [Message.checkedName, Message.withSeq, Message.seq, if_neg (Int64.not_le.mpr hseq),
    resolvedEvent, resolve_of_agree hevent hbody]

theorem Event.sendable_ofBody (body : EventBody) : (Message.event (.ofBody body)).Sendable :=
  Event.sendable body.name_ne (fun _ hname => (Option.some.inj hname).symm)

theorem Response.sendable {r : Response} (hrequest : 0 < r.requestSeq) (hcommand : r.command ≠ "")
    (hbody : ∀ name ∈ r.payloadName, name = r.command) : (Message.response r).Sendable := by
  intro seq hseq
  refine @Message.toPayload_of_checkedName _ r.command ?_
  simp only [Message.checkedName, Message.withSeq, Message.seq, if_neg (Int64.not_le.mpr hseq),
    if_neg (Int64.not_le.mpr hrequest)]
  exact resolve_of_agree hcommand hbody

end Protocol

namespace Session.Outbox

/-! ## What reaches the wire -/

variable {o : Outbox}

theorem prefix_post (m : Message) (o : Outbox) : o.sink.bytes <+: (o.post m).2.sink.bytes := by
  rw [post]
  dsimp only
  unfold send
  dsimp only
  split
  · exact List.prefix_rfl
  · rename_i payload _
    have hwrite := Framing.Encoder.prefix_writeFrame payload o.encoder
    split <;> rename_i heq <;> rw [heq] at hwrite <;> exact hwrite

theorem event_eq (name : String) (body : Option EventBody) (o : Outbox) :
    o.event name body = o.post (.event { event := name, body }) := rfl

theorem respondSuccess_eq (request : Request) (body : Option ResponseBody) (o : Outbox) :
    o.respondSuccess request body = o.post (.response (.ok request body)) := rfl

/-- A failed response is logged and then posted. -/
theorem respondError_eq (request : Request) (text : String) (o : Outbox) :
    ∃ journal, o.respondError request text =
      { o with journal }.post (.response (.failed request text)) := ⟨_, rfl⟩

theorem lt_ofNat_succ {n : Nat} (h : n + 1 < 2 ^ 63) : 0 < Int64.ofNat (n + 1) := by
  rw [Int64.lt_iff_toInt_lt, Int64.toInt_ofNat_of_lt h]
  exact Int.natCast_pos.mpr n.succ_pos

/-- A message got through: it is numbered, and its frame is on the wire. -/
structure Delivered (m : Message) (payload : Bytes) (o o' : Outbox) : Prop where
  numbered : Numbered (o.seq + 1) m payload
  accepts : o'.sink.Accepts
  seq_eq : o'.seq = o.seq + 1
  bytes_eq : o'.sink.bytes = o.sink.bytes ++ Framing.frame payload

/-- Over a connection that works a message that keeps to the protocol gets through. -/
theorem post_of_accepts {m : Message} (hm : m.Sendable) (hsink : o.sink.Accepts)
    (hseq : o.seq + 1 < 2 ^ 63) :
    ∃ payload o', o.post m = (.ok (), o') ∧ Delivered m payload o o' := by
  obtain ⟨payload, hpayload⟩ := hm _ (lt_ofNat_succ hseq)
  obtain ⟨encoder, hwrite, haccepts, hbytes⟩ :=
    Framing.Encoder.writeFrame_of_accepts payload hsink
  refine ⟨payload,
    { encoder, seq := o.seq + 1, journal := o.journal.record (.outbound payload) }, ?_,
    numbered_of_toPayload (Nat.le_of_lt hseq) hpayload, haccepts, rfl, hbytes⟩
  rw [post, send]
  dsimp only
  rw [hpayload]
  dsimp only
  rw [hwrite]
  rfl

/-- After the connection was closed nothing gets through, which is no fault of the message. -/
theorem post_of_detached {m : Message} (hm : m.Sendable) (hsink : o.sink.attached = false)
    (hseq : o.seq + 1 < 2 ^ 63) :
    ∃ o', o.post m = (.error (.io .brokenPipe), o') ∧ o'.sink = o.sink ∧ o'.seq = o.seq := by
  obtain ⟨payload, hpayload⟩ := hm _ (lt_ofNat_succ hseq)
  obtain ⟨encoder, hwrite, hsame⟩ := Framing.Encoder.writeFrame_of_detached payload hsink
  refine ⟨{ o with encoder }, ?_, hsame, rfl⟩
  rw [post, send]
  dsimp only
  rw [hpayload]
  dsimp only
  rw [hwrite]
  rfl

end Session.Outbox

end DebugAdapter
