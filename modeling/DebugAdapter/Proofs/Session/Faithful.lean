import DebugAdapter.Proofs.Session.Alone
import DebugAdapter.Proofs.Session.Tracing

/-! # The trace is faithful

Whoever reads the trace of a session knows what went over the wire: all that was sent, in the order
in which it was sent, each payload on a line of its own; all messages that were received, each before
the handler gets to see it; and why the session failed, if a frame was no message. -/

namespace DebugAdapter.Session

open Protocol Framing

variable {σ : Type}

/-! ## At any time -/

/-- When the handler is called for a message, its payload was received last and is recorded, like
all that was received before. All that is recorded after that was written after that, except for a
frame that somebody was sending in between. -/
def CalledWhenRecorded (before : List Incident) (m : Message) (after : List Incident)
    (s : Traffic) : Prop :=
  (∃ earlier payload, received before = earlier ++ [payload] ∧ Message.ofPayload payload = .ok m ∧
    inbounds before = earlier ++ [payload]) ∧
  ∃ between, between.length ≤ 1 ∧ between ++ writes after = outbounds after ++ s.unrecorded

/-- What the trace tells, at any time in a run. -/
structure Faithful (start : Traffic) (history : List Incident) (s : Traffic) : Prop where
  trace_eq : s.outbox.journal.trace = start.outbox.journal.trace ++ records history
  bytes_eq : s.outbox.sink.bytes = start.outbox.sink.bytes ++ (writes history).flatMap frame
  /-- The frames on the wire are recorded in their order, each of them before the next is written. -/
  outbounds_eq : outbounds history ++ s.unrecorded = writes history
  line : ∀ payload ∈ writes history, 0x0A ∉ payload ∧ 0x0D ∉ payload ∧
    ∃ text, Utf8.encode text = payload ∧ (TraceRecord.outbound payload).text = "< " ++ text
  /-- The messages are recorded in their order, each of them before the next is read. -/
  inbounds_eq : inbounds history ++ s.unnoted = received history
  message : ∀ payload ∈ received history, ∃ m, Message.ofPayload payload = .ok m
  /-- The record of a payload that is a text says it as it is. -/
  shown : ∀ payload ∈ received history,
    (TraceRecord.inbound payload).text = "> " ++ Utf8.decodeLossy payload ∧
      ∀ text, Utf8.encode text = payload → Utf8.decodeLossy payload = text
  stream : start.decoder.source.Steady → received history =
    (splits (reads history).length start.decoder.source.remaining).filterMap Split.messagePayload?
  called : ∀ before m after, history = before ++ .called m :: after →
    CalledWhenRecorded before m after s
  reports_eq : reports history ++ s.unreported = failures history
  /-- A frame that is no message is the last that is read, and the session ends with it. -/
  failed : ∀ e ∈ failures history, failures history = [e] ∧ s.stage.EndsWith e
  ended : ∀ payload, (.error .connectionClosed, payload) ∈ reads history → failures history = []

namespace Traffic

variable {start s : Traffic} {history : List Incident}

theorem Run.wired (h : Run start history s) (htraced : start.outbox.journal.traced = true)
    (hclean : start.outbox.sink.Clean) (hlock : start.lock = none) :
    Wired start history s := by
  induction h with
  | nil =>
    have hnone : start.unrecorded = [] := by rw [unrecorded, hlock]; rfl
    exact ⟨htraced, hclean, (List.append_nil _).symm, (List.append_nil _).symm, hnone,
      by simp [writes]⟩
  | snoc _ hstep ih => exact ih.step hstep

theorem Run.heard (h : Run start history s) (hstage : start.stage = .reading false) :
    Heard start history s := by
  induction h with
  | nil =>
    constructor <;> simp [reads, inbounds, reports, received, failures, records, unnoted, unreported,
      hstage, Stage.isArrived, Stage.failure?, Stage.isEnded, Stage.current?, Decoder.decodes]
  | snoc _ hstep ih => exact ih.step hstep

/-- The handler is called for the message that was noted last. -/
theorem Step.of_called {t : Traffic} {m : Message} (h : Step s [.called m] t) :
    ∃ opened, s.stage = .noted opened m := by
  generalize hnew : [Incident.called m] = new at h
  cases h with
  | welcomes _ hstage | processes _ hstage =>
    obtain rfl := Incident.called.inj (List.singleton_inj.mp hnew)
    exact ⟨_, hstage⟩
  | read | noted | reported | passes | sends | fails | closes | cloneSends | cloneFails | unlocks
  | remarks => simp at hnew

theorem length_unrecorded_le (s : Traffic) : s.unrecorded.length ≤ 1 := by
  rw [unrecorded, List.length_map]
  exact Option.length_toList_le

/-- What was decoded as a message is one. -/
theorem Heard.ofPayload (h : Heard start history s) {m : Message} {payload : Bytes}
    (hmem : (.ok m, payload) ∈ reads history) : Message.ofPayload payload = .ok m := by
  rw [← h.reads_eq] at hmem
  exact Decoder.ofPayload_of_mem_decodes hmem

theorem Heard.message (h : Heard start history s) {payload : Bytes}
    (hmem : payload ∈ received history) : ∃ m, Message.ofPayload payload = .ok m := by
  obtain ⟨⟨result, other⟩, hread, hpayload⟩ := List.mem_filterMap.mp hmem
  cases result with
  | error e => exact nomatch hpayload
  | ok m =>
    obtain rfl := Option.some.inj hpayload
    exact ⟨m, h.ofPayload hread⟩

theorem Heard.stream (h : Heard start history s) (hsteady : start.decoder.source.Steady) :
    received history =
      (splits (reads history).length start.decoder.source.remaining).filterMap
        Split.messagePayload? := by
  have hpayloads := Decoder.decodes_payloads (reads history).length start.decoder hsteady
  rwa [h.reads_eq] at hpayloads

/-- The failure is that of the last frame. -/
theorem Heard.failed (h : Heard start history s) :
    failures history = ((reads history).getLast?.bind Session.failure?).toList := by
  rcases List.eq_nil_or_concat (reads history) with hnil | ⟨earlier, last, hlast⟩
  · rw [failures, hnil]
    rfl
  · rw [List.concat_eq_append] at hlast
    have hearlier : earlier.filterMap Session.failure? = [] := by
      refine List.filterMap_eq_nil_iff.mpr fun read hmem => ?_
      obtain ⟨m, hm⟩ := h.early read (by rwa [hlast, List.dropLast_concat])
      rw [Session.failure?, hm]
    rw [failures, hlast, List.filterMap_append, hearlier, List.getLast?_concat]
    cases hfailure : Session.failure? last <;> simp [hfailure]

/-- The end of the stream comes last. -/
theorem Heard.ended (h : Heard start history s) {payload : Bytes}
    (hmem : (.error .connectionClosed, payload) ∈ reads history) : failures history = [] := by
  have hlast : (reads history).getLast? = some (.error .connectionClosed, payload) := by
    rcases List.eq_nil_or_concat (reads history) with hnil | ⟨earlier, last, hlast⟩
    · rw [hnil] at hmem
      exact absurd hmem List.not_mem_nil
    · rw [List.concat_eq_append] at hlast
      rw [hlast, List.getLast?_concat]
      rw [hlast, List.mem_append, List.mem_singleton] at hmem
      rcases hmem with hmem | rfl
      · obtain ⟨m, hm⟩ := h.early _ (by rwa [hlast, List.dropLast_concat])
        exact nomatch hm
      · rfl
  rw [h.failed, hlast]
  rfl

/-- What the trace has got when the handler is called. -/
theorem Heard.called (h : Heard start history s) {opened : Bool} {m : Message}
    (hstage : s.stage = .noted opened m) :
    ∃ earlier payload, received history = earlier ++ [payload] ∧
      Message.ofPayload payload = .ok m ∧ inbounds history = earlier ++ [payload] := by
  obtain ⟨earlier, hreads⟩ := h.current m (by rw [hstage]; rfl)
  have hmem : (.ok m, s.decoder.lastPayload) ∈ reads history := by rw [hreads]; simp
  have hreceived : received history =
      earlier.filterMap messagePayload? ++ [s.decoder.lastPayload] := by
    rw [received, hreads, List.filterMap_append]
    rfl
  have hinbounds := h.inbounds_eq
  rw [unnoted, hstage] at hinbounds
  have hrecorded : inbounds history = received history := (List.append_nil _).symm.trans hinbounds
  exact ⟨_, _, hreceived, h.ofPayload hmem, hrecorded.trans hreceived⟩

/-- What is written after some time is recorded after that. -/
theorem Wired.later {t : Traffic} {before after : List Incident} {m : Message}
    (h : Wired start before s) (h' : Wired start (before ++ .called m :: after) t) :
    s.unrecorded ++ writes after = outbounds after ++ t.unrecorded := by
  have hbefore := h.outbounds_eq
  have hafter := h'.outbounds_eq
  have hwrites : writes (.called m :: after) = writes after := rfl
  have houtbounds : outbounds (.called m :: after) = outbounds after := rfl
  rw [writes_append, outbounds_append, hwrites, houtbounds, ← hbefore, List.append_assoc,
    List.append_assoc] at hafter
  exact (List.append_cancel_left hafter).symm

theorem Run.faithful (h : Run start history s) (hstage : start.stage = .reading false)
    (hlock : start.lock = none) (htraced : start.outbox.journal.traced = true)
    (hclean : start.outbox.sink.Clean) : Faithful start history s := by
  have hwired := h.wired htraced hclean hlock
  have hheard := h.heard hstage
  refine ⟨hwired.trace_eq, hwired.bytes_eq, hwired.outbounds_eq, ?line, hheard.inbounds_eq,
    fun _ => hheard.message, ?shown, hheard.stream, ?called, hheard.reports_eq, ?failed,
    fun _ => hheard.ended⟩
  case line =>
    intro payload hmem
    have hline := hwired.lines payload hmem
    obtain ⟨text, htext⟩ := hline.exists_text
    refine ⟨hline.not_mem.1, hline.not_mem.2, text, htext, ?_⟩
    rw [TraceRecord.text, ← htext, Utf8.decodeLossy_encode]
  case shown =>
    rintro payload -
    refine ⟨rfl, fun text htext => ?_⟩
    rw [← htext, Utf8.decodeLossy_encode]
  case called =>
    rintro before m after rfl
    obtain ⟨u, v, hbefore, hcalled⟩ := h.split rfl
    obtain ⟨opened, hnoted⟩ := hcalled.of_called
    exact ⟨(hbefore.heard hstage).called hnoted, u.unrecorded, u.length_unrecorded_le,
      (hbefore.wired htraced hclean hlock).later hwired⟩
  case failed =>
    intro e he
    refine ⟨?_, hheard.endsWith e he⟩
    rw [hheard.failed] at he ⊢
    obtain heq := Option.mem_toList.mp he
    rw [heq]
    rfl

end Traffic

/-! ## At the end -/

/-- What the trace tells when a run is over and nobody is in the middle of sending. -/
structure Complete (history : List Incident) (result : Except Error Unit) : Prop where
  outbounds_eq : outbounds history = writes history
  inbounds_eq : inbounds history = received history
  reports_eq : reports history = failures history
  result_eq : ∀ e ∈ failures history, result = .error e

theorem Faithful.complete {start s : Traffic} {history : List Incident}
    (h : Faithful start history s) {result : Except Error Unit} (hstage : s.stage = .ended result)
    (hlock : s.lock = none) : Complete history result where
  outbounds_eq := by
    have houtbounds := h.outbounds_eq
    rw [Traffic.unrecorded, hlock] at houtbounds
    exact (List.append_nil _).symm.trans houtbounds
  inbounds_eq := by
    have hinbounds := h.inbounds_eq
    rw [Traffic.unnoted, hstage] at hinbounds
    exact (List.append_nil _).symm.trans hinbounds
  reports_eq := by
    have hreports := h.reports_eq
    rw [Traffic.unreported, hstage] at hreports
    exact (List.append_nil _).symm.trans hreports
  result_eq := by
    intro e he
    have hends := (h.failed e he).2
    rwa [hstage] at hends

/-- However the steps of a traced session and of those who send besides it follow one another, the
trace is faithful to what is read and written. The run of a session by itself is one such course,
if its handler does nothing but send. -/
theorem trace_faithful {s : Session σ} (hcreated : s.state = .created)
    (htraced : s.outbox.journal.traced = true) (hclean : s.outbox.sink.Clean) :
    (∀ history t, Traffic.Run (s.traffic (.reading false)) history t →
      Faithful (s.traffic (.reading false)) history t ∧
        ∀ result, t.stage = .ended result → t.lock = none → Complete history result) ∧
    (s.handler.OnlySends → ∃ history,
      Traffic.Run (s.traffic (.reading false)) history (s.run.2.traffic (.ended s.run.1))) := by
  refine ⟨fun history t hrun => ?_, run_alone hcreated⟩
  have hfaithful := hrun.faithful rfl rfl htraced hclean
  exact ⟨hfaithful, fun result => hfaithful.complete⟩

/-- A client opens the session, asks for the threads and sends something that is no message. For
each message an event is sent. -/
def talkative : Session Unit where
  peer := "p"
  decoder := {
    source := {
      feed := {
        rest := frame (Utf8.encode
            "\x7b\"type\":\"request\",\"seq\":1,\"command\":\"initialize\",\"arguments\":\x7b\x7d\x7d") ++
          frame (Utf8.encode "\x7b\"type\":\"request\",\"seq\":2,\"command\":\"threads\"\x7d") ++
          frame (Utf8.encode "[]")
        pace := fun _ => 100 } } }
  outbox := { journal := { traced := true } }
  handler := {
    welcome := fun _ x => (.ok {}, x)
    process := fun _ x => (.ok .proceed, x.1, (x.2.event "module" none).2)
    terminate := id }
  handlerState := ()

def talkativeTexts : List String := [
  "> \x7b\"type\":\"request\",\"seq\":1,\"command\":\"initialize\",\"arguments\":\x7b\x7d\x7d",
  "< \x7b\"seq\":1,\"type\":\"response\",\"request_seq\":1,\"success\":true," ++
    "\"command\":\"initialize\",\"body\":\x7b\x7d\x7d",
  "> \x7b\"type\":\"request\",\"seq\":2,\"command\":\"threads\"\x7d",
  "< \x7b\"seq\":2,\"type\":\"event\",\"event\":\"module\"\x7d",
  "> ERR malformed message",
  "< \x7b\"seq\":3,\"type\":\"event\",\"event\":\"terminated\"\x7d"]

theorem trace_faithful_talkative :
    talkative.state = .created ∧ talkative.outbox.journal.traced = true ∧
      talkative.outbox.sink.Clean ∧ talkative.handler.OnlySends ∧
      ∃ history, Complete history talkative.run.1 ∧ failures history ≠ [] ∧
        (records history).map TraceRecord.text = talkativeTexts := by
  have hclean : talkative.outbox.sink.Clean := Sink.Accepts.default.clean
  have hsends : talkative.handler.OnlySends :=
    ⟨fun _ _ => ⟨[], rfl⟩, fun _ _ => ⟨[⟨0, .event "module" none⟩], rfl⟩, fun _ => ⟨[], rfl⟩⟩
  obtain ⟨hevery, halone⟩ := trace_faithful (s := talkative) rfl rfl hclean
  obtain ⟨history, hrun⟩ := halone hsends
  obtain ⟨hfaithful, hcomplete⟩ := hevery history _ hrun
  have hover := hcomplete _ rfl rfl
  have htrace : talkative.run.2.outbox.journal.trace.map TraceRecord.text = talkativeTexts ∧
      talkative.run.2.outbox.journal.trace.filterMap TraceRecord.failure? ≠ [] := by
    simp only [talkative, Utf8.encode_eq_toByteArray]
    decide +kernel
  have hstart : (talkative.traffic (.reading false)).outbox.journal.trace = [] := rfl
  have hrecords := hfaithful.trace_eq
  rw [outbox_traffic talkative.run.2, hstart, List.nil_append] at hrecords
  rw [hrecords] at htrace
  refine ⟨rfl, rfl, hclean, hsends, history, hover, ?_, htrace.1⟩
  rw [← hover.reports_eq]
  exact htrace.2

/-! ## Payloads that are no text -/

/-- A request with a field that nobody reads, which holds something that is no text. -/
def blurredPayload : Bytes :=
  Utf8.encode "\x7b\"type\":\"request\",\"seq\":1,\"command\":\"threads\",\"x\":\"" ++ 0xFF ::
    Utf8.encode "\"\x7d"

def blurred : Session Unit where
  peer := "p"
  decoder := { source := { feed := { rest := frame blurredPayload, pace := fun _ => 100 } } }
  outbox := { journal := { traced := true } }
  handler := {
    welcome := fun _ x => (.ok {}, x)
    process := fun _ x => (.ok .stop, x)
    terminate := id }
  handlerState := ()

/-- It is a message, but its record does not say what was received. -/
theorem not_raw_blurred :
    blurred.state = .created ∧ blurred.outbox.journal.traced = true ∧
      blurred.outbox.sink.Accepts ∧
      blurred.decoder.decode.1.toOption = some (.request { seq := 1, command := "threads" }) ∧
      blurred.run.2.outbox.journal.trace = [.inbound blurredPayload] ∧
      Utf8.encode (TraceRecord.inbound blurredPayload).text ≠
        Utf8.encode "> " ++ blurredPayload := by
  have hread : blurred.decoder.decode.1.toOption =
        some (.request { seq := 1, command := "threads" }) ∧
      blurred.run.2.outbox.journal.trace = [.inbound blurredPayload] ∧
      Utf8.encode (TraceRecord.inbound blurredPayload).text ≠
        Utf8.encode "> " ++ blurredPayload := by
    simp only [blurred, blurredPayload, Utf8.encode_eq_toByteArray]
    decide +kernel
  exact ⟨rfl, rfl, .default, hread⟩

end DebugAdapter.Session
