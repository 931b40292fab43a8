import DebugAdapter.Proofs.Framing.Payloads
import DebugAdapter.Proofs.Json.Lines
import DebugAdapter.Proofs.Session.Traffic

/-! # Traffic and trace

What the wire and the trace have got is compared with what happened, after each step of a run. The
sending side is ahead of the trace by the frame that is being sent, the receiving side by the frame
that was read last. -/

namespace DebugAdapter.Session

open Protocol Framing

/-! ## What happened, by kind -/

namespace Incident

def read? : Incident → Option (Except Error Message × Bytes)
  | read result payload => some (result, payload)
  | _ => none

def written? : Incident → Option Bytes
  | wrote payload => some payload
  | _ => none

def record? : Incident → Option TraceRecord
  | recorded r => some r
  | _ => none

end Incident

namespace TraceRecord

def inbound? : TraceRecord → Option Bytes
  | inbound payload => some payload
  | _ => none

def outbound? : TraceRecord → Option Bytes
  | outbound payload => some payload
  | _ => none

def failure? : TraceRecord → Option Error
  | failed e => some e
  | _ => none

end TraceRecord

/-- The frames that were read, each with its payload as far as it was received. -/
def reads (history : List Incident) : List (Except Error Message × Bytes) :=
  history.filterMap Incident.read?

/-- The payloads of the frames that were written. -/
def writes (history : List Incident) : List Bytes := history.filterMap Incident.written?

def records (history : List Incident) : List TraceRecord := history.filterMap Incident.record?

/-- The payloads of the frames that are messages. -/
def received (history : List Incident) : List Bytes := (reads history).filterMap messagePayload?

/-- Why a frame could not be decoded. The end of the stream is no failure. -/
def failure? (read : Except Error Message × Bytes) : Option Error :=
  match read.1 with
  | .ok _ | .error .connectionClosed => none
  | .error e => some e

/-- The failures of the frames that could not be decoded. -/
def failures (history : List Incident) : List Error := (reads history).filterMap failure?

def inbounds (history : List Incident) : List Bytes :=
  (records history).filterMap TraceRecord.inbound?

def outbounds (history : List Incident) : List Bytes :=
  (records history).filterMap TraceRecord.outbound?

def reports (history : List Incident) : List Error :=
  (records history).filterMap TraceRecord.failure?

section Append

variable (first second : List Incident)

@[simp] theorem reads_append : reads (first ++ second) = reads first ++ reads second :=
  List.filterMap_append

@[simp] theorem writes_append : writes (first ++ second) = writes first ++ writes second :=
  List.filterMap_append

@[simp] theorem records_append : records (first ++ second) = records first ++ records second :=
  List.filterMap_append

@[simp] theorem received_append :
    received (first ++ second) = received first ++ received second := by
  rw [received, reads_append, List.filterMap_append, received, received]

@[simp] theorem failures_append :
    failures (first ++ second) = failures first ++ failures second := by
  rw [failures, reads_append, List.filterMap_append, failures, failures]

@[simp] theorem inbounds_append :
    inbounds (first ++ second) = inbounds first ++ inbounds second := by
  rw [inbounds, records_append, List.filterMap_append, inbounds, inbounds]

@[simp] theorem outbounds_append :
    outbounds (first ++ second) = outbounds first ++ outbounds second := by
  rw [outbounds, records_append, List.filterMap_append, outbounds, outbounds]

@[simp] theorem reports_append :
    reports (first ++ second) = reports first ++ reports second := by
  rw [reports, records_append, List.filterMap_append, reports, reports]

end Append

/-! ## The wire and the trace -/

namespace Traffic

/-- What was written and is not recorded yet. -/
def unrecorded (s : Traffic) : List Bytes := s.lock.toList.map Lock.payload

/-- What the wire and the trace have got since the start. -/
structure Wired (start : Traffic) (history : List Incident) (s : Traffic) : Prop where
  traced : s.outbox.journal.traced = true
  clean : s.outbox.sink.Clean
  trace_eq : s.outbox.journal.trace = start.outbox.journal.trace ++ records history
  bytes_eq : s.outbox.sink.bytes = start.outbox.sink.bytes ++ (writes history).flatMap frame
  outbounds_eq : outbounds history ++ s.unrecorded = writes history
  lines : ∀ payload ∈ writes history, Json.Printer.IsLine payload

end Traffic

theorem trace_record {o : Outbox} (h : o.journal.traced = true) (r : TraceRecord) :
    (o.record r).journal.trace = o.journal.trace ++ [r] := by
  rw [Outbox.record, Journal.record, if_pos h]
  exact List.reverse_cons

/-- What a call puts on the wire is a frame with a payload on one line, and nothing of it is in
the trace yet. -/
theorem Outbox.write_spec (m : Message) {o : Outbox} (h : o.sink.Clean) :
    (∃ e o', o.write m = (.error e, o') ∧ o'.journal = o.journal ∧ o'.sink.Clean ∧
        o'.sink.bytes = o.sink.bytes) ∨
      ∃ number payload o', o.write m = (.ok (number, payload), o') ∧ o'.journal = o.journal ∧
        o'.sink.Clean ∧ o'.sink.bytes = o.sink.bytes ++ frame payload ∧
          Json.Printer.IsLine payload := by
  unfold write
  dsimp only
  split
  · rename_i e _
    exact .inl ⟨e, o, rfl, rfl, h, rfl⟩
  · rename_i payload hpayload
    obtain ⟨hclean, hbytes⟩ := Encoder.writeFrame_spec payload h
    split
    · rename_i e encoder hwrite
      rw [hwrite] at hbytes hclean
      exact .inl ⟨_, _, rfl, rfl, hclean, hbytes.trans (List.append_nil _)⟩
    · rename_i encoder hwrite
      rw [hwrite] at hbytes hclean
      refine .inr ⟨_, payload, _, rfl, rfl, hclean, ?_, ?_⟩
      · exact hbytes
      · rw [(Message.toPayload_ok hpayload).2.2]
        exact Json.Printer.isLine_value _

namespace Traffic

variable {start s t : Traffic} {history new : List Incident}

/-- Nothing is written and nothing recorded. -/
theorem Wired.quiet (h : Wired start history s) (hrecords : records new = [])
    (hwrites : writes new = []) (hjournal : t.outbox.journal.traced = s.outbox.journal.traced ∧
      t.outbox.journal.trace = s.outbox.journal.trace)
    (hclean : t.outbox.sink.Clean)
    (hbytes : t.outbox.sink.bytes = s.outbox.sink.bytes) (hlock : t.lock = s.lock) :
    Wired start (history ++ new) t where
  traced := hjournal.1.trans h.traced
  clean := hclean
  trace_eq := by rw [hjournal.2, h.trace_eq, records_append, hrecords, List.append_nil]
  bytes_eq := by rw [hbytes, h.bytes_eq, writes_append, hwrites, List.append_nil]
  outbounds_eq := by
    rw [outbounds_append, outbounds, outbounds, hrecords, List.filterMap_nil, List.append_nil,
      unrecorded, hlock, writes_append, hwrites, List.append_nil]
    exact h.outbounds_eq
  lines := by
    rw [writes_append, hwrites, List.append_nil]
    exact h.lines

/-- A record is made, of what was sent if it is one of sending. -/
theorem Wired.recorded (h : Wired start history s) {r : TraceRecord}
    (houtbox : t.outbox = s.outbox.record r)
    (hsent : r.outbound?.toList ++ t.unrecorded = s.unrecorded) :
    Wired start (history ++ [.recorded r]) t where
  traced := by rw [houtbox]; exact (Journal.traced_record _ r).trans h.traced
  clean := by rw [houtbox]; exact h.clean
  trace_eq := by
    rw [houtbox, trace_record h.traced, h.trace_eq, records_append, List.append_assoc]
    rfl
  bytes_eq := by
    rw [houtbox, writes_append]
    exact h.bytes_eq.trans (by rw [show writes [.recorded r] = [] from rfl, List.append_nil])
  outbounds_eq := by
    have hone : outbounds [.recorded r] = r.outbound?.toList := by
      cases hr : r.outbound? <;> simp [outbounds, records, Incident.record?, hr]
    rw [outbounds_append, hone, List.append_assoc, hsent, writes_append]
    exact h.outbounds_eq.trans (List.append_nil _).symm
  lines := by
    rw [writes_append]
    exact fun payload hmem => h.lines payload (by simpa [writes, Incident.written?] using hmem)

/-- A frame is written, and the lock is taken until it is recorded. -/
theorem Wired.wrote (h : Wired start history s) {payload : Bytes} {own : Bool}
    (hlock : s.lock = none) (hline : Json.Printer.IsLine payload)
    (hjournal : t.outbox.journal.traced = s.outbox.journal.traced ∧
      t.outbox.journal.trace = s.outbox.journal.trace)
    (hclean : t.outbox.sink.Clean)
    (hbytes : t.outbox.sink.bytes = s.outbox.sink.bytes ++ frame payload)
    (hlocked : t.lock = some ⟨own, payload⟩) :
    Wired start (history ++ [.wrote payload]) t where
  traced := hjournal.1.trans h.traced
  clean := hclean
  trace_eq := by
    rw [hjournal.2, h.trace_eq, records_append]
    exact (List.append_nil _).symm ▸ rfl
  bytes_eq := by
    have hone : (writes [.wrote payload]).flatMap frame = frame payload := List.flatMap_singleton ..
    rw [hbytes, h.bytes_eq, writes_append, List.flatMap_append, hone, List.append_assoc]
  outbounds_eq := by
    have hbefore := h.outbounds_eq
    rw [unrecorded, hlock] at hbefore
    rw [outbounds_append, writes_append, ← hbefore, unrecorded, hlocked]
    simp [outbounds, records, writes, Incident.record?, Incident.written?]
  lines := by
    intro other hmem
    rw [writes_append] at hmem
    rcases List.mem_append.mp hmem with hmem | hmem
    · exact h.lines other hmem
    · rwa [List.mem_singleton.mp hmem]

theorem journal_prepare (call : Call) (o : Outbox) :
    (call.prepare o).journal.traced = o.journal.traced ∧
      (call.prepare o).journal.trace = o.journal.trace := by
  cases call <;> exact ⟨rfl, rfl⟩

theorem sink_prepare (call : Call) (o : Outbox) : (call.prepare o).sink = o.sink := by
  cases call <;> rfl

/-- A call that is not sent leaves the wire and the trace alone. -/
theorem Wired.unsent (h : Wired start history s) {call : Call} {e : Error} {o : Outbox}
    (hwrite : (call.prepare s.outbox).write call.message = (.error e, o))
    (houtbox : t.outbox = o) (hlock : t.lock = s.lock) : Wired start (history ++ []) t := by
  have hclean : (call.prepare s.outbox).sink.Clean :=
    sink_prepare call s.outbox ▸ h.clean
  have hprepare := journal_prepare call s.outbox
  rcases Outbox.write_spec call.message hclean with
    ⟨_, o', heq, hjournal, hclean', hbytes⟩ | ⟨_, _, _, heq, _⟩ <;> rw [heq] at hwrite
  · obtain rfl := (Prod.mk.inj hwrite).2
    refine h.quiet rfl rfl ?_ ?_ ?_ hlock <;> rw [houtbox]
    · rw [hjournal]
      exact hprepare
    · exact hclean'
    · rw [hbytes, sink_prepare]
  · exact nomatch (Prod.mk.inj hwrite).1

/-- What a call writes is on the wire. -/
theorem Wired.sent (h : Wired start history s) {call : Call} {number : Int64} {payload : Bytes}
    {o : Outbox} {own : Bool} (hlock : s.lock = none)
    (hwrite : (call.prepare s.outbox).write call.message = (.ok (number, payload), o))
    (houtbox : t.outbox = o) (hlocked : t.lock = some ⟨own, payload⟩) :
    Wired start (history ++ [.wrote payload]) t := by
  have hclean : (call.prepare s.outbox).sink.Clean :=
    sink_prepare call s.outbox ▸ h.clean
  have hprepare := journal_prepare call s.outbox
  rcases Outbox.write_spec call.message hclean with
    ⟨_, _, heq, _⟩ | ⟨_, _, o', heq, hjournal, hclean', hbytes, hline⟩ <;> rw [heq] at hwrite
  · exact nomatch (Prod.mk.inj hwrite).1
  · obtain ⟨hok, rfl⟩ := Prod.mk.inj hwrite
    obtain ⟨-, rfl⟩ := Prod.mk.inj (Except.ok.inj hok)
    refine h.wrote hlock hline ?_ ?_ ?_ hlocked <;> rw [houtbox]
    · rw [hjournal]
      exact hprepare
    · exact hclean'
    · rw [hbytes, sink_prepare]

theorem Wired.step (h : Wired start history s) (hstep : Step s new t) :
    Wired start (history ++ new) t := by
  cases hstep with
  | read | welcomes | passes => exact h.quiet rfl rfl ⟨rfl, rfl⟩ h.clean rfl rfl
  | @processes m =>
    refine h.quiet rfl rfl ?_ ?_ ?_ rfl <;> cases m
    all_goals first | exact ⟨rfl, rfl⟩ | exact h.clean | rfl
  | noted | reported | remarks => exact h.recorded rfl rfl
  | sends hlock _ hwrite | cloneSends _ hlock hwrite => exact h.sent hlock hwrite rfl rfl
  | fails _ _ hwrite | cloneFails _ _ hwrite => exact h.unsent hwrite rfl rfl
  | closes =>
    exact h.quiet rfl rfl ⟨rfl, rfl⟩ h.clean.close (Sink.bytes_close _) rfl
  | @unlocks lock hlock =>
    have hheld : s.unrecorded = [lock.payload] := by rw [unrecorded, hlock]; rfl
    exact h.recorded rfl hheld.symm

end Traffic

/-! ## The stream and the trace -/

namespace Stage

/-- The message that was decoded last and that the handler was not called for yet. -/
def current? : Stage → Option Message
  | arrived _ m | noted _ m => some m
  | _ => none

def isArrived : Stage → Bool
  | arrived _ _ => true
  | _ => false

def failure? : Stage → Option Error
  | failed _ e => some e
  | _ => none

/-- Another frame may be read. -/
def goesOn : Stage → Bool
  | reading _ | arrived _ _ | noted _ _ | welcoming _ | answering _ _ | processing => true
  | failed _ _ | parting _ | terminating _ | closing _ | ended _ => false

/-- The connection is closed. -/
def isEnded : Stage → Bool
  | ended _ => true
  | _ => false

/-- The session fails, or is about to fail, with an error. -/
def EndsWith (e : Error) : Stage → Prop
  | failed _ e' => e' = e
  | parting result | terminating result | closing result | ended result => result = .error e
  | _ => False

/-- No frame was read and nothing recorded between two stages. -/
structure LeadsTo (x y : Stage) : Prop where
  isArrived : y.isArrived = x.isArrived
  failure : y.failure? = x.failure?
  goesOn : y.goesOn = true → x.goesOn = true
  isEnded : y.isEnded = false → x.isEnded = false
  current : ∀ m, y.current? = some m → x.current? = some m
  endsWith : ∀ e, x.EndsWith e → y.EndsWith e

theorem LeadsTo.refl (x : Stage) : LeadsTo x x :=
  ⟨rfl, rfl, id, id, fun _ => id, fun _ => id⟩

theorem Passes.leadsTo {x y : Stage} (h : Passes x y) : LeadsTo x y := by
  cases h <;> constructor <;> simp [Stage.isArrived, Stage.failure?, Stage.goesOn, Stage.isEnded,
    Stage.current?, EndsWith]

theorem Sends.leadsTo {x : Stage} {call : Call} {next : Except Error Unit → Stage}
    (h : Sends x call next) (result : Except Error Unit) : LeadsTo x (next result) := by
  cases h with
  | answer =>
    cases result <;> constructor <;> simp [afterAnswer, Stage.isArrived, Stage.failure?,
      Stage.goesOn, Stage.isEnded, Stage.current?, EndsWith]
  | farewell => constructor <;> simp [Stage.isArrived, Stage.failure?, Stage.goesOn,
      Stage.isEnded, Stage.current?, EndsWith]

/-- What a frame that was read leads to is what is still to be recorded of it. -/
structure Awaits (x : Stage) (read : Except Error Message × Bytes) : Prop where
  isArrived : (if x.isArrived then [read.2] else []) = received [.read read.1 read.2]
  failure : x.failure?.toList = failures [.read read.1 read.2]
  goesOn : x.goesOn = true → ∃ m, read.1 = .ok m
  current : ∀ m, x.current? = some m → read.1 = .ok m
  endsWith : ∀ e ∈ failures [.read read.1 read.2], x.EndsWith e

theorem awaits_afterRead (opened : Bool) (result : Except Error Message) (payload : Bytes) :
    (afterRead opened result).Awaits (result, payload) := by
  cases result with
  | ok m =>
    constructor <;> simp [Stage.afterRead, Stage.isArrived, Stage.failure?, Stage.current?,
      received, failures, reads, messagePayload?, Incident.read?, Session.failure?]
  | error e =>
    by_cases he : e = .connectionClosed
    · subst he
      cases opened <;> constructor <;> simp [Stage.afterRead, Stage.leave, Stage.isArrived,
        Stage.failure?, Stage.goesOn, Stage.current?, received, failures, reads, messagePayload?,
        Incident.read?, Session.failure?]
    · have hfailure : Session.failure? (.error e, payload) = some e := by
        cases e <;> first | rfl | exact absurd rfl he
      rw [Stage.afterRead_error he]
      constructor <;> simp [Stage.isArrived, Stage.failure?, Stage.goesOn, Stage.current?,
        Stage.EndsWith, received, failures, reads, messagePayload?, Incident.read?, hfailure]

end Stage

namespace Traffic

/-- What was received and is not recorded yet. -/
def unnoted (s : Traffic) : List Bytes :=
  if s.stage.isArrived then [s.decoder.lastPayload] else []

/-- What could not be decoded and is not recorded yet. -/
def unreported (s : Traffic) : List Error := s.stage.failure?.toList

/-- What was read since the start, and what the trace has got of it. -/
structure Heard (start : Traffic) (history : List Incident) (s : Traffic) : Prop where
  reads_eq : (start.decoder.decodes (reads history).length).1 = reads history
  decoder_eq : s.stage.isEnded = false →
    (start.decoder.decodes (reads history).length).2 = s.decoder
  inbounds_eq : inbounds history ++ s.unnoted = received history
  reports_eq : reports history ++ s.unreported = failures history
  early : ∀ read ∈ (reads history).dropLast, ∃ m, read.1 = .ok m
  goesOn : s.stage.goesOn = true → ∀ read ∈ reads history, ∃ m, read.1 = .ok m
  current : ∀ m, s.stage.current? = some m →
    ∃ earlier, reads history = earlier ++ [(.ok m, s.decoder.lastPayload)]
  endsWith : ∀ e ∈ failures history, s.stage.EndsWith e

/-- No frame is read, and what is recorded was to be recorded. -/
theorem Heard.keep (h : Heard start history s) (hreads : reads new = [])
    (hdecoder : t.stage.isEnded = false → s.stage.isEnded = false ∧ t.decoder = s.decoder)
    (hpayload : t.decoder.lastPayload = s.decoder.lastPayload)
    (hnoted : inbounds new ++ t.unnoted = s.unnoted)
    (hreported : reports new ++ t.unreported = s.unreported)
    (hgoes : t.stage.goesOn = true → s.stage.goesOn = true)
    (hcurrent : ∀ m, t.stage.current? = some m → s.stage.current? = some m)
    (hends : ∀ e, s.stage.EndsWith e → t.stage.EndsWith e) : Heard start (history ++ new) t := by
  have hsame : reads (history ++ new) = reads history := by
    rw [reads_append, hreads, List.append_nil]
  have hreceived : received (history ++ new) = received history := by
    rw [received, hsame, received]
  have hfailures : failures (history ++ new) = failures history := by
    rw [failures, hsame, failures]
  constructor
  case reads_eq =>
    rw [hsame]
    exact h.reads_eq
  case decoder_eq =>
    intro hgoing
    obtain ⟨hbefore, hdecoder⟩ := hdecoder hgoing
    rw [hsame, hdecoder]
    exact h.decoder_eq hbefore
  case inbounds_eq =>
    rw [inbounds_append, List.append_assoc, hnoted, hreceived]
    exact h.inbounds_eq
  case reports_eq =>
    rw [reports_append, List.append_assoc, hreported, hfailures]
    exact h.reports_eq
  case early =>
    rw [hsame]
    exact h.early
  case goesOn =>
    rw [hsame]
    exact fun hnext => h.goesOn (hgoes hnext)
  case current =>
    rw [hsame, hpayload]
    exact fun m hm => h.current m (hcurrent m hm)
  case endsWith =>
    rw [hfailures]
    exact fun e he => hends e (h.endsWith e he)

/-- No frame is read, and nothing is recorded of what was. -/
theorem Heard.quiet (h : Heard start history s) (hreads : reads new = [])
    (hinbounds : inbounds new = []) (hreports : reports new = [])
    (hdecoder : t.stage.isEnded = false → t.decoder = s.decoder)
    (hpayload : t.decoder.lastPayload = s.decoder.lastPayload) (hstage : s.stage.LeadsTo t.stage) :
    Heard start (history ++ new) t := by
  refine h.keep hreads (fun hgoing => ⟨hstage.isEnded hgoing, hdecoder hgoing⟩) hpayload ?_ ?_
    hstage.goesOn hstage.current hstage.endsWith
  · rw [hinbounds, List.nil_append, unnoted, hstage.isArrived, hpayload, unnoted]
  · rw [hreports, List.nil_append, unreported, hstage.failure, unreported]

theorem Heard.noted (h : Heard start history s) {opened : Bool} {m : Message}
    (hstage : s.stage = .arrived opened m) :
    Heard start (history ++ [.recorded (.inbound s.decoder.lastPayload)])
      { s with outbox := arrived s.decoder s.outbox, stage := .noted opened m } := by
  refine h.keep rfl (fun _ => ⟨by rw [hstage]; rfl, rfl⟩) rfl ?_ ?_ ?_ ?_ ?_
  · rw [unnoted, unnoted, hstage]
    rfl
  · rw [unreported, unreported, hstage]
    rfl
  · exact fun _ => by rw [hstage]; rfl
  · exact fun m' hm' => by rw [hstage]; exact hm'
  · exact fun e he => by rw [hstage] at he; exact he.elim

theorem Heard.reported (h : Heard start history s) {opened : Bool} {e : Error}
    (hstage : s.stage = .failed opened e) :
    Heard start (history ++ [.recorded (.failed e)])
      { s with outbox := s.outbox.record (.failed e), stage := .leave opened (.error e) } := by
  refine h.keep rfl (fun _ => ⟨by rw [hstage]; rfl, rfl⟩) rfl ?_ ?_ ?_ ?_ ?_
  · rw [unnoted, unnoted, hstage]
    cases opened <;> rfl
  · rw [unreported, unreported, hstage]
    cases opened <;> rfl
  · intro hnext
    cases opened <;> exact absurd hnext Bool.false_ne_true
  · intro m hm
    cases opened <;> exact nomatch hm
  · intro e' he
    rw [hstage] at he
    cases opened <;> exact congrArg Except.error he

/-- As long as frames are read, all of them were messages. -/
theorem Heard.read (h : Heard start history s) {opened : Bool} {result : Except Error Message}
    {d : Decoder} (hstage : s.stage = .reading opened) (hdecode : s.decoder.decode = (result, d)) :
    Heard start (history ++ [.read result d.lastPayload])
      { s with decoder := d, stage := .afterRead opened result } := by
  have hall := h.goesOn (by rw [hstage]; rfl)
  have hnone : failures history = [] := by
    refine List.filterMap_eq_nil_iff.mpr fun read hmem => ?_
    obtain ⟨m, hm⟩ := hall read hmem
    rw [Session.failure?, hm]
  have hbefore := h.inbounds_eq
  rw [unnoted, hstage] at hbefore
  have hreports := h.reports_eq
  rw [unreported, hstage] at hreports
  have hreads : reads (history ++ [.read result d.lastPayload]) =
      reads history ++ [(result, d.lastPayload)] := reads_append _ _
  have hawaits := Stage.awaits_afterRead opened result d.lastPayload
  have hdecodes : start.decoder.decodes (reads history ++ [(result, d.lastPayload)]).length =
      (reads history ++ [(result, d.lastPayload)], d) := by
    rw [List.length_append]
    exact Decoder.decodes_succ (Prod.ext h.reads_eq (h.decoder_eq (by rw [hstage]; rfl))) hdecode
  refine ⟨?_, ?_, ?_, ?_, ?_, ?_, ?_, ?_⟩
  · rw [hreads, hdecodes]
  · intro _
    rw [hreads, hdecodes]
  · rw [received_append, ← hbefore, inbounds_append, List.append_assoc, List.append_assoc]
    exact congrArg _ hawaits.isArrived
  · rw [failures_append, ← hreports, reports_append, List.append_assoc, List.append_assoc]
    exact congrArg _ hawaits.failure
  · rw [hreads, List.dropLast_concat]
    exact hall
  · intro hgoes read hmem
    rw [hreads] at hmem
    rcases List.mem_append.mp hmem with hmem | hmem
    · exact hall read hmem
    · exact List.mem_singleton.mp hmem ▸ hawaits.goesOn hgoes
  · intro m hm
    have hok : result = .ok m := hawaits.current m hm
    exact ⟨reads history, by rw [hreads, hok]⟩
  · rw [failures_append, hnone]
    exact hawaits.endsWith

theorem Heard.step (h : Heard start history s) (hstep : Step s new t) :
    Heard start (history ++ new) t := by
  cases hstep with
  | read _ hstage hdecode => exact h.read hstage hdecode
  | noted _ hstage => exact h.noted hstage
  | reported _ hstage => exact h.reported hstage
  | welcomes _ hstage | processes _ hstage =>
    refine h.quiet rfl rfl rfl (fun _ => rfl) rfl ?_
    constructor <;> simp [hstage, Stage.isArrived, Stage.failure?, Stage.goesOn, Stage.isEnded,
      Stage.current?, Stage.EndsWith]
  | passes _ hstage => exact h.quiet rfl rfl rfl (fun _ => rfl) rfl hstage.leadsTo
  | sends _ hstage | fails _ hstage =>
    exact h.quiet rfl rfl rfl (fun _ => rfl) rfl (hstage.leadsTo _)
  | closes _ hstage =>
    refine h.quiet rfl rfl rfl nofun rfl ?_
    constructor <;> simp [hstage, Stage.isArrived, Stage.failure?, Stage.goesOn, Stage.isEnded,
      Stage.current?, Stage.EndsWith]
  | cloneSends | cloneFails | unlocks | remarks =>
    exact h.quiet rfl rfl rfl (fun _ => rfl) rfl (.refl _)

end Traffic

end DebugAdapter.Session
