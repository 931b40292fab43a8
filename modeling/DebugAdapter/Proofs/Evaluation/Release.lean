import DebugAdapter.Proofs.Evaluation.Exchanges
import DebugAdapter.Proofs.Evaluation.Recording

/-! # Threads that were told to go on

When a request to go on is accepted, the stop of the thread is taken out of the table. It stays out
until the thread stops anew, but for one case: the pump that records a stop of another thread reads
each stop in the table and writes it back without its frames, and a stop that is taken out in between
is put in again. -/

namespace DebugAdapter.Evaluation

open Debuggee Protocol Session

/-! ## Threads without a stop -/

/-- A thread has no stop. A client that asks for its stack or wants it to go on is told so. -/
structure Running (thread : Int64) (s : System) : Prop where
  gone : s.registries.events.get? thread = none
  stack : ∀ a answer, a.threadId = thread →
    (Learns s (.stackTrace a) answer ↔ answer = StopModel.notStopped thread)
  proceed : ∀ a answer, a.threadId = thread →
    (Learns s (.proceed a) answer ↔ answer = StopModel.notStopped thread)

theorem running_of_gone {thread : Int64} {s : System} (h : s.registries.events.get? thread = none) :
    Running thread s where
  gone := h
  stack a answer hthread := by rw [learns_iff, replyFrom, hthread, h]
  proceed a answer hthread := by rw [learns_iff, replyFrom, hthread, h]

/-- A client that wants a stopped thread to go on is told that it does. -/
theorem learns_proceed {s : System} {a : ContinueArguments} {event : StopEvent}
    (h : s.registries.events.get? a.threadId = some event) :
    Learns s (.proceed a) (.replied (some (.resumed { allThreadsContinued := some false }))) := by
  rw [learns_iff, replyFrom, h]

/-- The pump puts a stop of a thread into the table that it did not put there before. -/
def StopsAnew (thread : Int64) (log more : List Happening) : Prop :=
  ∃ event ∈ recordeds more, event.thread = thread ∧
    ∀ before ∈ recordeds log, before.resume ≠ event.resume

theorem StopsAnew.append {thread : Int64} {log more : List Happening}
    (h : StopsAnew thread log more) (later : List Happening) :
    StopsAnew thread log (more ++ later) := by
  obtain ⟨event, hmem, hnew⟩ := h
  refine ⟨event, ?_, hnew⟩
  rw [recordeds_append]
  exact List.mem_append_left _ hmem

/-- A stop that is new after a part of a run is new to the run. -/
theorem StopsAnew.of_later {thread : Int64} {log before more : List Happening}
    (h : StopsAnew thread (log ++ before) more) : StopsAnew thread log (before ++ more) := by
  obtain ⟨event, hmem, hthread, hnew⟩ := h
  rw [recordeds_append] at hnew
  refine ⟨event, ?_, hthread, fun old hold => hnew old (List.mem_append_left _ hold)⟩
  rw [recordeds_append]
  exact List.mem_append_right _ hmem

/-- What happens in a step that puts no stop into the table makes no difference. -/
theorem stopsAnew_congr {thread : Int64} {log more : List Happening} {between : List Happening}
    (h : recordeds between = []) :
    StopsAnew thread (log ++ between) more ↔ StopsAnew thread log (between ++ more) := by
  rw [StopsAnew, StopsAnew, recordeds_append, recordeds_append, h, List.append_nil, List.nil_append]

/-- The pump has read a stop and is about to write it back. -/
def WritesBack (s : System) (event : StopEvent) : Prop :=
  ∃ old rest, s.pump = .retain old :: rest ∧ old.thread = event.thread ∧ old.resume = event.resume

/-! ## Steps -/

/-- A thread has no stop in the table, and none that was read. -/
structure Away (thread : Int64) (hand : Hand) (g : Registries) : Prop where
  gone : g.events.get? thread = none
  read : ∀ event, hand.read? = some event → event.thread ≠ thread

section Step

variable {log more : List Happening} {hand hand' : Hand} {done : List (DebugStop × Channel)}
  {g g' : Registries} {thread : Int64}

theorem Away.thins (h : Away thread hand g)
    (hread : ∀ event, hand'.read? = some event → hand.read? = some event)
    (hevents : ∀ other event, g'.events.get? other = some event →
      g.events.get? other = some event) : Away thread hand' g' where
  gone := by
    cases hget : g'.events.get? thread with
    | none => rfl
    | some event => exact nomatch h.gone.symm.trans (hevents thread event hget)
  read event hevent := h.read event (hread event hevent)

/-- A thread without a stop gets one only when the pump is done with a stop of that thread. -/
theorem Away.pump (h : Away thread hand g) (hkept : Kept log hand done g)
    (hstep : Records hand g more hand' g') :
    Away thread hand' g' ∨ ∃ report c ids, hand = .keeping report c ids ∧ report.thread = thread ∧
      more = [.recorded ⟨report.thread, ids, c⟩] := by
  cases hstep with
  | idle _ _ hthins => exact .inl (h.thins (fun _ => id) hthins.events)
  | takes | purgesFrames | purgesLocals | addsScope | addsFrame | lists =>
    exact .inl (h.thins (fun _ hevent => nomatch hevent) fun _ _ => id)
  | finds | misses => exact .inl (h.thins (by simp) fun _ _ => id)
  | @reads _ _ _ other _ event hget =>
    refine .inl ⟨h.gone, fun found hfound => ?_⟩
    obtain rfl := Option.some.inj hfound
    obtain ⟨hother, -⟩ := hkept.live other event hget
    intro hthread
    have hsame : other = thread := hother.symm.trans hthread
    rw [hsame, h.gone] at hget
    exact nomatch hget
  | @writes _ _ _ event _ =>
    have hne : event.thread ≠ thread := h.read event rfl
    refine .inl ⟨?_, by simp⟩
    rw [ThreadTable.get?_retain, if_neg (Ne.symm hne)]
    exact h.gone
  | @keeps _ report c ids =>
    by_cases hthread : report.thread = thread
    · exact .inr ⟨report, c, ids, rfl, hthread, rfl⟩
    · refine .inl ⟨?_, fun _ hevent => nomatch hevent⟩
      rw [ThreadTable.get?_retain, if_neg (Ne.symm hthread)]
      exact h.gone

end Step

/-! ## Runs -/

/-- A thread has no stop at some point of a run, and the pump is not about to put one back. -/
def Absent (thread : Int64) (log : List Happening) (s : System) : Prop :=
  ∃ hand done, InHand hand s.pump ∧ Kept log hand done s.registries ∧ Away thread hand s.registries

theorem Absent.move {log : List Happening} {s t : System} {thread : Int64} {move : Move}
    (h : Absent thread log s) (hordered : (takenStops log).Pairwise (·.2 < ·.2))
    (hmove : s.move? move = some t) :
    StopsAnew thread log (s.happenings move) ∨ Absent thread (log ++ s.happenings move) t := by
  obtain ⟨hand, done, hinHand, hkept, haway⟩ := h
  by_cases hpump : move = .step .pump
  · subst hpump
    obtain ⟨hand', hnext, hrecords⟩ := records_pump hinHand hmove
    obtain ⟨done', hkept'⟩ := hkept.pump hrecords
    rcases haway.pump hkept hrecords with haway' | ⟨report, c, ids, rfl, hthread, hmore⟩
    · exact .inr ⟨hand', done', hnext, hkept', haway'⟩
    · refine .inl ⟨⟨report.thread, ids, c⟩, ?_, hthread, fun event hmem => ?_⟩
      · rw [System.happenings, hmore]
        exact List.mem_cons_self
      · exact Nat.ne_of_lt (hkept.lt hordered rfl event hmem)
  · obtain ⟨htaken, hrecorded⟩ := records_eq_nil (s := s) hpump
    have hdrops := drops_move hmove hpump
    exact .inr ⟨hand, done, (pump_of_move hmove hpump).1 ▸ hinHand,
      hkept.still htaken hrecorded rfl (fun _ => id) hdrops.events,
      haway.thins (fun _ => id) hdrops.events⟩

/-- A thread that is without a stop at some point of a run stays so until it stops anew. -/
theorem Absent.play {script : Script} {decoder : Framing.Decoder} {outbox : Outbox}
    {first : List Move} {log : List Happening} {s : System} {thread : Int64}
    (h : Absent thread log s)
    (hfirst : System.play first (.starting script decoder outbox) = (log, s)) (moves : List Move) :
    StopsAnew thread log (System.play moves s).1 ∨ Running thread (System.play moves s).2 := by
  suffices h : StopsAnew thread log (System.play moves s).1 ∨
      Absent thread (log ++ (System.play moves s).1) (System.play moves s).2 by
    exact h.imp_right fun ⟨_, _, _, _, haway⟩ => running_of_gone haway.gone
  refine System.play_induction_last
    (P := fun more t => StopsAnew thread log more ∨ Absent thread (log ++ more) t) ?_ ?_ moves
  · rw [List.append_nil]
    exact .inr h
  · intro before move t h hmove
    -- the stops that were taken so far are those of the run from its beginning
    have hordered := takenStops_play script decoder outbox (first ++ before)
    rw [System.play_append, hfirst] at hordered
    rw [← List.append_assoc]
    rcases h with hanew | habsent
    · exact .inl (hanew.append _)
    · exact (habsent.move hordered hmove).imp_left StopsAnew.of_later

theorem gone_release (s : System) (tasks : List Task) (request : Request)
    (arguments : ContinueArguments) :
    (s.perform tasks (.release request arguments)).registries.events.get? arguments.threadId =
      none := by
  have hreleased := s.registries.events.get?_release arguments.threadId arguments.threadId
  rw [System.perform]
  split
  · rename_i heq
    exact congrArg Prod.fst heq
  · rename_i heq
    rw [heq, if_pos rfl] at hreleased
    exact hreleased

theorem play_retain {t : System} {event : StopEvent} {rest : List PumpTask}
    (hpump : t.pump = .retain event :: rest) :
    System.play [.step .pump] t = ([.recorded event], t.pumpPerform rest (.retain event)) := by
  have hstep : t.move? (.step .pump) = some (t.pumpPerform rest (.retain event)) := by
    rw [System.move?, System.step?, System.pump?, hpump]
  have hmore : t.happenings (.step .pump) = [.recorded event] := by
    rw [System.happenings, System.pumpHappenings, hpump]
  rw [System.play, hstep]
  simp [System.play, hmore]

/-- What the pump has read it writes back next. -/
theorem pump_of_read {hand : Hand} {pump : List PumpTask} {event : StopEvent}
    (h : InHand hand pump) (hread : hand.read? = some event) : ∃ rest, pump = .retain event :: rest := by
  cases hand with
  | writing report c old todo =>
    obtain rfl := Option.some.inj hread
    exact ⟨_, h.pump_eq rfl⟩
  | _ => exact nomatch hread

/-- What the pump writes back is no new stop, and its thread has a stop again. -/
theorem not_running_of_retain {log : List Happening} {t : System} {old : StopEvent}
    {rest : List PumpTask} (hpump : t.pump = .retain old :: rest)
    (hold : ∃ before ∈ recordeds log, before.resume = old.resume) :
    ¬(StopsAnew old.thread log (System.play [.step .pump] t).1 ∨
      Running old.thread (System.play [.step .pump] t).2) := by
  rw [play_retain hpump]
  rintro (⟨found, hfound, -, hnew⟩ | hrunning)
  · obtain rfl : found = old := List.mem_singleton.mp hfound
    obtain ⟨before, hbefore, hresume⟩ := hold
    exact hnew before hbefore hresume
  · have hback : (t.pumpPerform rest (.retain old)).registries.events.get? old.thread = some old :=
      (ThreadTable.get?_retain t.registries.events old.thread old.thread old).trans (if_pos rfl)
    exact nomatch hrunning.gone.symm.trans hback

/-- A thread whose stop was taken out of the table is without a stop, unless the pump has read it. -/
theorem absent_of_not_writesBack {log : List Happening} {s t : System} {event : StopEvent}
    {hand : Hand} {done : List (DebugStop × Channel)} (hinHand : InHand hand s.pump)
    (hkept : Kept log hand done s.registries)
    (hlive : s.registries.events.get? event.thread = some event) (hnot : ¬WritesBack s event)
    (hmove : s.move? (.step .session) = some t)
    (hgone : t.registries.events.get? event.thread = none) :
    Absent event.thread (log ++ s.happenings (.step .session)) t := by
  have hsession : (.step .session : Move) ≠ .step .pump := by decide
  obtain ⟨htaken, hnone⟩ := records_eq_nil (s := s) hsession
  refine ⟨hand, done, (pump_of_move hmove hsession).1 ▸ hinHand,
    hkept.still htaken hnone rfl (fun _ => id) (drops_move hmove hsession).events, hgone,
    fun old hread hold => hnot ?_⟩
  obtain ⟨-, -, hfound⟩ := hkept.read old hread
  obtain ⟨rest, hwrites⟩ := pump_of_read hinHand hread
  have hback : event.resume = old.resume := hfound event (hold ▸ hlive)
  exact ⟨old, rest, hwrites, hold, hback.symm⟩

/-- Once a request to go on is accepted its thread has no stop, and a client that asks about it is told
so, until the thread stops anew, however the threads take turns. This holds if and only if the pump is
not about to write back the very stop that the request takes out of the table. -/
theorem running_iff_not_writesBack (script : Script) (decoder : Framing.Decoder) (outbox : Outbox)
    {first : List Move} {log : List Happening} {s : System} {request : Request}
    {arguments : ContinueArguments} {tasks : List Task} {event : StopEvent}
    (hfirst : System.play first (.starting script decoder outbox) = (log, s))
    (hwork : s.session.work = .release request arguments :: tasks)
    (hlive : s.registries.events.get? arguments.threadId = some event) :
    (∀ moves, StopsAnew arguments.threadId log (System.play (.step .session :: moves) s).1 ∨
      Running arguments.threadId (System.play (.step .session :: moves) s).2) ↔
      ¬WritesBack s event := by
  obtain ⟨hand, done, hinHand, hkept⟩ := kept_play script decoder outbox first
  rw [hfirst] at hinHand hkept
  obtain ⟨hthread, before, hbefore, -, hresume⟩ := hkept.live _ _ hlive
  have hmove : s.move? (.step .session) = some (s.perform tasks (.release request arguments)) :=
    (session_of_work hwork).1
  have hgone := gone_release s tasks request arguments
  generalize s.perform tasks (.release request arguments) = t at hmove hgone
  have hplay : ∀ moves, System.play (.step .session :: moves) s =
      (s.happenings (.step .session) ++ (System.play moves t).1, (System.play moves t).2) := by
    intro moves
    rw [System.play, hmove]
  have hsession : (.step .session : Move) ≠ .step .pump := by decide
  have hnone := (records_eq_nil (s := s) hsession).2
  simp only [hplay, ← stopsAnew_congr hnone, ← hthread] at hlive hgone ⊢
  constructor
  · rintro hall ⟨old, rest, hwrites, hsame, hback⟩
    have hpump : t.pump = .retain old :: rest := (pump_of_move hmove hsession).1.trans hwrites
    refine not_running_of_retain hpump ⟨before, ?_, hresume.trans hback.symm⟩
      (hsame ▸ hall [.step .pump])
    rw [recordeds_append]
    exact List.mem_append_left _ hbefore
  · intro hnot
    have habsent := absent_of_not_writesBack hinHand hkept hlive hnot hmove hgone
    have hupTo : System.play (first ++ [.step .session]) (.starting script decoder outbox) =
        (log ++ s.happenings (.step .session), t) := by
      rw [System.play_append, hfirst, hplay]
      simp [System.play]
    exact habsent.play hupTo

/-- A program that stops on two threads. -/
def stopOnBoth : Script :=
  .stopAside { thread := 1, reason := "breakpoint" }
    (.stop { thread := 2, reason := "breakpoint" } (.finish (.success 0))
      (.finish (.failure .cancelled)))

/-- The request that has the first thread go on. -/
def continueFirst : Request := (Inquiry.proceed { threadId := 1 }).request 3

/-- The request to go on arrives when the pump is about to look for the stop of the first thread. -/
def beforeReading : List Happening × System :=
  System.play (turns [(5, .session), (2, .engine), (12, .pump), (1, .session)])
    (.starting stopOnBoth resumingClient {})

theorem running_iff_not_writesBack_stopOnBoth :
    beforeReading.2.session.work = [.release continueFirst { threadId := 1 }, .decide true .proceed] ∧
      beforeReading.2.registries.events.get? 1 = some ⟨1, [], 0⟩ ∧
      beforeReading.2.pump.head? = some (.findStop 1) ∧
      ∀ moves, StopsAnew 1 beforeReading.1 (System.play (.step .session :: moves) beforeReading.2).1 ∨
        Running 1 (System.play (.step .session :: moves) beforeReading.2).2 := by
  have hrun : beforeReading.2.session.work =
        [.release continueFirst { threadId := 1 }, .decide true .proceed] ∧
      beforeReading.2.registries.events.get? 1 = some ⟨1, [], 0⟩ ∧
      beforeReading.2.pump.head? = some (.findStop 1) := by
    decide +kernel
  obtain ⟨hwork, hlive, hpump⟩ := hrun
  refine ⟨hwork, hlive, hpump, ?_⟩
  have hfirst : beforeReading = (beforeReading.1, beforeReading.2) := Prod.mk.eta.symm
  refine (running_iff_not_writesBack stopOnBoth resumingClient {} hfirst hwork hlive).mpr ?_
  rintro ⟨old, rest, hwrites, -⟩
  rw [hwrites] at hpump
  exact nomatch Option.some.inj hpump

/-- The request to go on arrives when the pump has read the stop of the first thread. -/
def afterReading : List Happening × System :=
  System.play (turns [(5, .session), (2, .engine), (13, .pump), (1, .session)])
    (.starting stopOnBoth resumingClient {})

/-- The session takes the stop out of the table, and the pump puts it in again. -/
def writtenBack : List Happening × System :=
  System.play (turns [(1, .session), (1, .pump)]) afterReading.2

/-- The request is accepted and the thread does not stop anew, and yet the table says that it is
stopped: it can be told to go on again. -/
theorem not_running_stopOnBoth :
    afterReading.2.session.work = [.release continueFirst { threadId := 1 }, .decide true .proceed] ∧
      acceptances writtenBack.1 = [0] ∧ ¬StopsAnew 1 afterReading.1 writtenBack.1 ∧
      ¬Running 1 writtenBack.2 ∧
      Learns writtenBack.2 (.proceed { threadId := 1 })
        (.replied (some (.resumed { allThreadsContinued := some false }))) := by
  have hrun : afterReading.2.session.work =
        [.release continueFirst { threadId := 1 }, .decide true .proceed] ∧
      recordeds afterReading.1 = [⟨1, [], 0⟩] ∧ acceptances writtenBack.1 = [0] ∧
      recordeds writtenBack.1 = [⟨1, [], 0⟩] ∧
      writtenBack.2.registries.events.get? 1 = some ⟨1, [], 0⟩ := by
    decide +kernel
  obtain ⟨hwork, hbefore, haccepted, hafter, hlive⟩ := hrun
  refine ⟨hwork, haccepted, ?_, ?_, ?_⟩
  · rintro ⟨event, hmem, -, hnew⟩
    rw [hafter] at hmem
    have hold : event ∈ recordeds afterReading.1 := by
      rw [hbefore]
      exact hmem
    exact hnew event hold rfl
  · intro hrunning
    exact nomatch hrunning.gone.symm.trans hlive
  · exact learns_proceed hlive

end DebugAdapter.Evaluation
