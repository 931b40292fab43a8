import DebugAdapter.Proofs.Session.Reporting
import DebugAdapter.Proofs.Session.Traffic

/-! # A session by itself

If no clone but those of the handler sends anything, and the handler does nothing but send while
it is called, the steps of a session follow one another as its run says. So what holds of every
run among other senders holds of that one. -/

namespace DebugAdapter.Session

open Protocol Framing

variable {σ : Type}

/-- While it is called, all that a handler does to the sending side is to send. -/
structure Handler.OnlySends (h : Handler σ) : Prop where
  welcome : ∀ arguments x, ∃ turns, (h.welcome arguments x).2.2 = (runTurns turns x.2).2
  process : ∀ m x, ∃ turns, (h.process m x).2.2 = (runTurns turns x.2).2
  terminate : ∀ x, ∃ turns, (h.terminate x).2 = (runTurns turns x.2).2

/-- A session whose thread stands somewhere, with nobody in the middle of sending. -/
def traffic (s : Session σ) (stage : Stage) : Traffic :=
  { decoder := s.decoder, outbox := s.outbox, stage }

theorem outbox_traffic (s : Session σ) (stage : Stage) : (s.traffic stage).outbox = s.outbox := rfl

namespace Traffic

/-! ## Calls step by step -/

theorem perform_eq_write (call : Call) (o : Outbox) :
    (∃ e o', (call.prepare o).write call.message = (.error e, o') ∧
        call.perform o = (.error e, o')) ∨
      ∃ number payload o', (call.prepare o).write call.message = (.ok (number, payload), o') ∧
        call.perform o = (.ok (call.reply number), o'.record (.outbound payload)) := by
  rw [Call.perform_eq, Outbox.send_eq]
  rcases (call.prepare o).write call.message with ⟨e | ⟨number, payload⟩, o'⟩
  · exact .inl ⟨e, o', rfl, rfl⟩
  · exact .inr ⟨number, payload, o', rfl, rfl⟩

theorem step_unlocks (d : Decoder) (o : Outbox) (stage : Stage) (lock : Lock) :
    Step ⟨d, o, stage, some lock⟩ [.recorded (.outbound lock.payload)]
      ⟨d, o.record (.outbound lock.payload), stage, none⟩ := .unlocks rfl

/-- A clone that sends takes two steps, or one if it fails. -/
theorem run_perform (call : Call) (d : Decoder) (o : Outbox) (stage : Stage) :
    ∃ history, Run ⟨d, o, stage, none⟩ history ⟨d, (call.perform o).2, stage, none⟩ := by
  rcases perform_eq_write call o with
    ⟨e, o', hwrite, hperform⟩ | ⟨number, payload, o', hwrite, hperform⟩ <;> rw [hperform]
  · have hfails : Step ⟨d, o, stage, none⟩ [] ⟨d, o', stage, none⟩ := .cloneFails call rfl hwrite
    exact ⟨_, Run.nil.snoc hfails⟩
  · have hsends : Step ⟨d, o, stage, none⟩ [.wrote payload] ⟨d, o', stage, some ⟨false, payload⟩⟩ :=
      .cloneSends call rfl hwrite
    exact ⟨_, (Run.nil.snoc hsends).snoc (step_unlocks ..)⟩

theorem run_turns (turns : List Turn) (d : Decoder) (o : Outbox) (stage : Stage) :
    ∃ history, Run ⟨d, o, stage, none⟩ history ⟨d, (runTurns turns o).2, stage, none⟩ := by
  induction turns generalizing o with
  | nil => exact ⟨[], .nil⟩
  | cons turn turns ih =>
    obtain ⟨first, hfirst⟩ := run_perform turn.call d o stage
    obtain ⟨second, hsecond⟩ := ih (turn.call.perform o).2
    exact ⟨_, hfirst.trans hsecond⟩

/-- So does the session itself, and what comes of it decides where it stands after that. -/
theorem run_sends {stage : Stage} {call : Call} {next : Except Error Unit → Stage}
    (h : stage.Sends call next) (d : Decoder) (o : Outbox) :
    ∃ history, Run ⟨d, o, stage, none⟩ history
      ⟨d, (call.perform o).2, next ((call.perform o).1.map fun _ => ()), none⟩ := by
  rcases perform_eq_write call o with
    ⟨e, o', hwrite, hperform⟩ | ⟨number, payload, o', hwrite, hperform⟩ <;> rw [hperform]
  · have hfails : Step ⟨d, o, stage, none⟩ [] ⟨d, o', next (.error e), none⟩ := .fails rfl h hwrite
    exact ⟨_, Run.nil.snoc hfails⟩
  · have hsends : Step ⟨d, o, stage, none⟩ [.wrote payload]
        ⟨d, o', next (.ok ()), some ⟨true, payload⟩⟩ := .sends rfl h hwrite
    exact ⟨_, (Run.nil.snoc hsends).snoc (step_unlocks ..)⟩

end Traffic

/-! ## What each part of a run does -/

open Traffic

/-- Where a session stands that received something. -/
def Stage.afterReceive (opened : Bool) : Except Error (Option Message) → Stage
  | .ok (some m) => .noted opened m
  | .ok none => leave opened (if opened then .ok () else .error (.handshake "connection closed"))
  | .error e => leave opened (.error e)

theorem run_receive {s t : Session σ} {received : Except Error (Option Message)} (opened : Bool)
    (h : s.receive = (received, t)) :
    t.handler = s.handler ∧ ∃ history,
      Traffic.Run (s.traffic (.reading opened)) history
        (t.traffic (.afterReceive opened received)) := by
  have hread : ∀ {result d}, s.decoder.decode = (result, d) →
      Traffic.Run (s.traffic (.reading opened)) [.read result d.lastPayload]
        ⟨d, s.outbox, .afterRead opened result, none⟩ := by
    intro result d hdecode
    have hstep : Traffic.Step (s.traffic (.reading opened)) [.read result d.lastPayload]
        ⟨d, s.outbox, .afterRead opened result, none⟩ := .read (.of_unlocked rfl) rfl hdecode
    exact Traffic.Run.nil.snoc hstep
  rcases s.receive_spec with ⟨m, d, hdecode, heq⟩ | ⟨d, hdecode, heq⟩ | ⟨e, d, hdecode, he, heq⟩ <;>
    obtain ⟨rfl, rfl⟩ := Prod.mk.inj (h.symm.trans heq)
  · exact ⟨rfl, _, (hread hdecode).snoc (.noted (.of_unlocked rfl) rfl)⟩
  · exact ⟨rfl, _, hread hdecode⟩
  · have hfailed := Stage.afterRead_error he opened
    exact ⟨rfl, _, (hread hdecode).snoc (.reported (.of_unlocked rfl) hfailed)⟩

/-- The handler is asked what it can do. -/
theorem run_welcome {s t : Session σ} {first : Option Message} {request : Request}
    {arguments : InitializeArguments} {answer : Except (List String) Capabilities}
    {handlerState : σ} {outbox : Outbox} (hsends : s.handler.OnlySends)
    (hreceive : s.receive = (.ok first, t)) (hfit : opening? first = .ok (request, arguments))
    (hwelcome : t.handler.welcome arguments (t.handlerState, t.outbox) =
      (answer, handlerState, outbox)) :
    t.handler = s.handler ∧ ∃ history, Traffic.Run (s.traffic (.reading false)) history
      (({ t with handlerState, outbox } : Session σ).traffic (.welcoming request)) := by
  obtain ⟨hhandler, history, hrun⟩ := run_receive false hreceive
  obtain ⟨m, rfl, -⟩ := opens_of_opening? hfit
  have hcalled := hrun.snoc (.welcomes (.of_unlocked rfl) rfl hfit)
  obtain ⟨turns, hturns⟩ := (hhandler ▸ hsends).welcome arguments (t.handlerState, t.outbox)
  rw [hwelcome] at hturns
  obtain rfl : outbox = (runTurns turns t.outbox).2 := hturns
  obtain ⟨sent, hsent⟩ := run_turns turns t.decoder t.outbox (.welcoming request)
  exact ⟨hhandler, _, hcalled.trans hsent⟩

/-- The opening is read, the handler is asked, and its answer is sent. -/
theorem Greeting.run {s t : Session σ} {opening : List Moment} (h : Greeting s opening t)
    (hsends : s.handler.OnlySends) :
    t.handler = s.handler ∧ ∃ history, Traffic.Run (s.traffic (.reading false)) history
      (t.traffic (.afterAnswer (verdict opening))) := by
  cases h with
  | broken hreceive => exact run_receive false hreceive
  | @unfit _ m reason hreceive hunfit =>
    obtain ⟨hhandler, history, hrun⟩ := run_receive false hreceive
    have hverdict : verdict [.first (.ok m)] = .error (.handshake reason) := by
      simp [verdict, List.findSome?, Moment.fatal?, Moment.refusal?, hunfit]
    rw [hverdict]
    cases m with
    | none =>
      obtain rfl := Except.error.inj hunfit
      exact ⟨hhandler, history, hrun⟩
    | some m => exact ⟨hhandler, _, hrun.snoc (.passes (.of_unlocked rfl) (.unfit hunfit))⟩
  | @unwelcome _ m _ _ causes _ _ hreceive hfit hwelcome =>
    obtain ⟨hhandler, history, hrun⟩ := run_welcome hsends hreceive hfit hwelcome
    have hverdict : verdict [.first (.ok m), .welcomed (.error causes)] =
        .error (.handshake (chainText causes)) := by
      simp [verdict, List.findSome?, Moment.fatal?, Moment.refusal?, hfit]
    rw [hverdict]
    exact ⟨hhandler, _, hrun.snoc (.passes (.of_unlocked rfl) (.unwelcome causes))⟩
  | @answered u _ request _ capabilities _ outbox outcome _ hreceive hfit hwelcome hanswer =>
    obtain ⟨hhandler, history, hrun⟩ := run_welcome hsends hreceive hfit hwelcome
    have hwelcomed := hrun.snoc (.passes (.of_unlocked rfl) (.welcomed capabilities))
    have hsends : Stage.Sends (.answering request capabilities)
        (.respondSuccess request (some (.capabilities capabilities))) .afterAnswer := .answer
    obtain ⟨sent, hsent⟩ := run_sends hsends u.decoder outbox
    simp only [Call.perform, hanswer] at hsent
    rw [verdict_answered hfit]
    cases outcome <;> exact ⟨hhandler, _, hwelcomed.trans hsent⟩

/-- The handler is called for a message. -/
theorem run_process {s t : Session σ} {m : Message} {answer : Except (List String) Flow}
    {handlerState : σ} {outbox : Outbox} (hsends : s.handler.OnlySends)
    (hreceive : s.receive = (.ok (some m), t))
    (hprocess : t.handler.process m (t.handlerState, announce m t.outbox) =
      (answer, handlerState, outbox)) :
    t.handler = s.handler ∧ ∃ history, Traffic.Run (s.traffic (.reading true)) history
      (({ t with handlerState, outbox } : Session σ).traffic .processing) := by
  obtain ⟨hhandler, history, hrun⟩ := run_receive true hreceive
  have hcalled := hrun.snoc (.processes (.of_unlocked rfl) rfl)
  obtain ⟨turns, hturns⟩ := (hhandler ▸ hsends).process m (t.handlerState, announce m t.outbox)
  rw [hprocess] at hturns
  obtain rfl : outbox = (runTurns turns (announce m t.outbox)).2 := hturns
  obtain ⟨sent, hsent⟩ := run_turns turns t.decoder (announce m t.outbox) .processing
  exact ⟨hhandler, _, hcalled.trans hsent⟩

/-- Messages are read and the handler is called for them. -/
theorem Talk.run {s t : Session σ} {talk : List Moment} (h : Talk s talk t)
    (hsends : s.handler.OnlySends) :
    t.handler = s.handler ∧ ∃ history, Traffic.Run (s.traffic (.reading true)) history
      (t.traffic (.parting (verdict talk))) := by
  induction h with
  | broken hreceive | ended hreceive => exact run_receive true hreceive
  | failed hreceive hprocess =>
    obtain ⟨hhandler, history, hrun⟩ := run_process hsends hreceive hprocess
    exact ⟨hhandler, _, hrun.snoc (.passes (.of_unlocked rfl) (.gaveUp _))⟩
  | stopped hreceive hprocess =>
    obtain ⟨hhandler, history, hrun⟩ := run_process hsends hreceive hprocess
    exact ⟨hhandler, _, hrun.snoc (.passes (.of_unlocked rfl) .stopped)⟩
  | proceeded hreceive hprocess _ ih =>
    obtain ⟨hhandler, history, hrun⟩ := run_process hsends hreceive hprocess
    obtain ⟨hrest, more, hmore⟩ := ih (hhandler ▸ hsends)
    exact ⟨hrest.trans hhandler, _, (hrun.snoc (.passes (.of_unlocked rfl) .proceeded)).trans hmore⟩

theorem run_shut (s : Session σ) (result : Except Error Unit) :
    Traffic.Run (s.traffic (.closing result)) [] (s.shut.traffic (.ended result)) := by
  have hcloses : Traffic.Step (s.traffic (.closing result)) [] (s.shut.traffic (.ended result)) :=
    .closes rfl rfl
  exact Traffic.Run.nil.snoc hcloses

/-- What is told in a chronicle happens step by step. -/
theorem Chronicle.run {s t : Session σ} {course : List Moment} (h : Chronicle s course t)
    (hsends : s.handler.OnlySends) :
    ∃ history, Traffic.Run (s.traffic (.reading false)) history
      (t.traffic (.ended (verdict course))) := by
  cases h with
  | @refused opening u hgreeting hrefused =>
    obtain ⟨-, history, hrun⟩ := hgreeting.run hsends
    cases hverdict : verdict opening with
    | ok => exact absurd (hgreeting.verdict_eq_ok_iff.mp hverdict) hrefused
    | error e =>
      rw [hverdict] at hrun
      rw [verdict_append_of_error hverdict]
      exact ⟨_, hrun.trans (u.run_shut _)⟩
  | @served opening t talk u outcome outbox handlerState outbox' hgreeting hopened htalk hannounced
      hterminate =>
    obtain ⟨hhandler, history, hrun⟩ := hgreeting.run hsends
    have hok := hgreeting.verdict_eq_ok_iff.mpr hopened
    rw [hok] at hrun
    obtain ⟨huhandler, later, hlater⟩ := htalk.run (hhandler ▸ hsends)
    have hparting : Stage.Sends (.parting (verdict talk)) (.event "terminated" none)
        fun _ => .terminating (verdict talk) := .farewell
    obtain ⟨told, htold⟩ := run_sends hparting u.decoder u.outbox
    simp only [Call.perform, hannounced] at htold
    have hhandler' : u.handler = s.handler := huhandler.trans hhandler
    obtain ⟨turns, hturns⟩ := (hhandler' ▸ hsends).terminate (u.handlerState, outbox)
    rw [hterminate] at hturns
    obtain rfl : outbox' = (runTurns turns outbox).2 := hturns
    obtain ⟨sent, hsent⟩ := run_turns turns u.decoder outbox (.terminating (verdict talk))
    have hended := (((hrun.trans hlater).trans htold).trans hsent).snoc
      (.passes (.of_unlocked rfl) .terminated)
    let v : Session σ := { u with handlerState, outbox := (runTurns turns outbox).2 }
    have hfarewell : verdict (.announced outcome :: v.closing) = .ok () := by cases outcome <;> rfl
    rw [verdict_append_of_ok hfarewell, verdict_append hok]
    exact ⟨_, hended.trans (v.run_shut _)⟩

/-- What a run does is one of the things that may happen. -/
theorem run_alone {s : Session σ} (hcreated : s.state = .created) (hsends : s.handler.OnlySends) :
    ∃ history, Traffic.Run (s.traffic (.reading false)) history
      (s.run.2.traffic (.ended s.run.1)) := by
  obtain ⟨course, t, hchronicle, hrun⟩ := run_told hcreated
  obtain ⟨history, hhistory⟩ := hchronicle.run hsends
  rw [hrun]
  exact ⟨history, hhistory⟩

end DebugAdapter.Session
