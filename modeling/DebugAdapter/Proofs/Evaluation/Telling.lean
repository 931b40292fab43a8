import DebugAdapter.Proofs.Evaluation.Telling.Session

/-! # What the client is told about a thread

The pump puts a stop into the table first and tells the client about it after that, and no lock is
held in between. A request to go on may get ahead of it: then the client learns that the thread goes
on before it learns that the thread stopped. But for that, and for messages that do not get through,
what the client was told last is what the table says, whenever the session and the pump have nothing
at hand. -/

namespace DebugAdapter.Evaluation

open Debuggee Protocol Session

section Step

variable {s t : System} {log more : List Happening} {thread : Int64}

/-! ## Steps -/

theorem goesOn_move {move : Move} (hreached : Reached log s) (hmove : s.move? move = some t)
    (thread : Int64) : GoesOn s (s.happenings move) t thread := by
  cases System.moved hmove with
  | session hstep => exact goesOn_session hreached hstep thread
  | pump hstep => exact (hreached.pumps hstep).goesOn hreached thread
  | engine hkept hmore =>
    refine .of_still (story_of_isOfEngine thread hmore) ?_
    exact situation_congr (hkept.registries_eq ▸ rfl) (announcing_congr hkept.pump_eq)
      (by rw [owing, owing, hkept.session_eq])
  | client hmore =>
    rw [hmore]
    exact .of_still rfl rfl

end Step

/-! ## Runs -/

/-- A thread is dropped only in a run at the end of which the session works on its last message. -/
theorem tale_play {script : Script} (decoder : Framing.Decoder) (outbox : Outbox)
    (moves : List Move)
    (hone : OnOneThread script (System.play moves (.starting script decoder outbox)).1)
    (thread : Int64) :
    Tale (Concluding (System.play moves (.starting script decoder outbox)).2)
      (situation (System.play moves (.starting script decoder outbox)).2 thread)
      (story thread (System.play moves (.starting script decoder outbox)).1) := by
  refine System.play_induction_last (P := fun log t => OnOneThread script log →
    Tale (Concluding t) (situation t thread) (story thread log)) (fun _ => .nil) ?_ moves hone
  intro before move t ih hmove hone
  have h := ih hone.of_append
  have hreached := reached_play decoder outbox before hone.of_append
  have hspent := spent_play decoder outbox before hone.of_append
  generalize System.play before (.starting script decoder outbox) = run at *
  have hends : Concluding run.2 → Concluding t := fun hconcluding =>
    (hconcluding.move hreached.settling.agenda hmove).1
  rw [story_append]
  refine (h.mono hends).follows ((goesOn_move hreached hmove thread).mono ?_)
  · rintro (hleaves | ⟨hcancelled, hpump, hnot⟩)
    · exact hleaves
    · refine hends (hspent.resolve_right fun hspent => ?_)
      rcases (hspent hcancelled).pump with hidle | hnotice
      · exact nomatch hidle.symm.trans hpump
      · exact hnot (List.cons.inj (hpump.symm.trans hnotice)).1

/-- The session waits for the next message, and the pump has no item in hand. -/
structure AtEase (s : System) : Prop where
  dispatching : s.session.state = .dispatching
  session : s.session.work = []
  pump : s.pump = []

/-- How far the client can rely on what it was told about a thread. -/
structure Truthful (start : Outbox) (thread : Int64) (log : List Happening) (s : System) : Prop where
  /-- When the session and the pump are at ease, the thread has a stop in the table if and only if the
  client was told last that the thread stopped. There are two exceptions: the stop of which it was told
  last had been overtaken by a request to go on, or the announcement of the stop in the table got
  lost. -/
  live_iff : AtEase s → ((s.registries.events.get? thread).isSome = true ↔
    ((shown thread log).getLast? = some .stopped ∧
        ¬[.recorded, .accepted, .continued, .stopped] <:+ story thread log) ∨
      [.recorded, .lost] <:+ story thread log)
  /-- The client learns of a stop right after it has learned that the thread goes on only when the
  request to go on was accepted before the stop was announced. -/
  late : ∀ front back, story thread log = front ++ [.continued, .stopped] ++ back →
    [.recorded, .accepted] <:+ front
  /-- The wire gets what is posted, in the order in which it is posted. -/
  wire : s.outbox.sink.bytes = start.sink.bytes ++ log.flatMap Happening.bytes
  framed : ∀ x ∈ log, x.IsFramed

/-- Whatever the client sends and in whichever order the threads make their steps, what the client was
told last about a thread of an engine that stops on one thread is what the table says, but for a stop
that a request to go on has overtaken and for one whose announcement got lost. -/
theorem truthful_play {script : Script} (decoder : Framing.Decoder) (outbox : Outbox)
    (moves : List Move)
    (hone : OnOneThread script (System.play moves (.starting script decoder outbox)).1)
    (thread : Int64) :
    Truthful outbox thread (System.play moves (.starting script decoder outbox)).1
      (System.play moves (.starting script decoder outbox)).2 := by
  have hagenda := (settling_play script decoder outbox moves).agenda
  have htale := tale_play decoder outbox moves hone thread
  have hwire := System.wire_play moves (.starting script decoder outbox)
  have hframed := System.framed_play moves (.starting script decoder outbox)
  generalize System.play moves (.starting script decoder outbox) = run at *
  refine ⟨fun hease => ?_, fun front back hstory => (hstory ▸ htale).late, hwire, hframed⟩
  have hnot : ¬Concluding run.2 := fun hconcluding =>
    nomatch hease.dispatching.symm.trans (hconcluding.closed hagenda hease.session)
  have howing : owing run.2 thread = false :=
    owing_eq_false (by rw [hease.session]; exact List.not_mem_nil)
  have hannouncing : announcing run.2 thread = false := by
    rw [announcing, hease.pump]
    rfl
  rw [situation, hannouncing, howing] at htale
  rw [shown_eq_filter]
  exact htale.live_iff hnot

/-- The program stops, and the pump tells the client so. -/
def announcedRun : List Happening × System :=
  System.play (turns [(5, .session), (1, .engine), (8, .pump)])
    (.starting stopOnce resumingClient {})

theorem truthful_play_announced :
    OnOneThread stopOnce announcedRun.1 ∧ AtEase announcedRun.2 ∧
      shown 1 announcedRun.1 = [.stopped] ∧ Truthful {} 1 announcedRun.1 announcedRun.2 ∧
      (announcedRun.2.registries.events.get? 1).isSome = true := by
  have hrun : (announcedRun.2.session.state = .dispatching ∧ announcedRun.2.session.work = [] ∧
      announcedRun.2.pump = []) ∧ (∀ x ∈ announcedRun.1, x.isReport = false) ∧
      shown 1 announcedRun.1 = [.stopped] ∧ story 1 announcedRun.1 = [.recorded, .stopped] := by
    decide +kernel
  obtain ⟨⟨hstate, hwork, hpump⟩, halone, hshown, hstory⟩ := hrun
  have hone : OnOneThread stopOnce announcedRun.1 := ⟨⟨trivial, trivial⟩, halone⟩
  have hease : AtEase announcedRun.2 := ⟨hstate, hwork, hpump⟩
  have htruthful : Truthful {} 1 announcedRun.1 announcedRun.2 :=
    truthful_play resumingClient {} _ hone 1
  refine ⟨hone, hease, hshown, htruthful, ?_⟩
  rw [htruthful.live_iff hease, hshown, hstory]
  decide

/-- The session lets the program go on before the pump tells the client that it stopped. -/
def overtakenRun : List Happening × System :=
  System.play (turns [(5, .session), (1, .engine), (6, .pump), (8, .session), (2, .pump)])
    (.starting stopOnce resumingClient {})

/-- The message that tells the client of the stop gets lost. -/
def unheardRun : List Happening × System :=
  System.play (turns [(5, .session), (1, .engine), (8, .pump)])
    (.starting stopOnce resumingClient
      { encoder := { sink := { writes := .only 3 .brokenPipe } } })

/-- What the client was told last is not what the table says when a request to go on has overtaken a
stop, or when an announcement got lost. -/
theorem not_live_iff_stopped :
    (OnOneThread stopOnce overtakenRun.1 ∧ AtEase overtakenRun.2 ∧
        shown 1 overtakenRun.1 = [.continued, .stopped] ∧
        ¬((overtakenRun.2.registries.events.get? 1).isSome = true ↔
          (shown 1 overtakenRun.1).getLast? = some .stopped)) ∧
      OnOneThread stopOnce unheardRun.1 ∧ AtEase unheardRun.2 ∧ shown 1 unheardRun.1 = [] ∧
        ¬((unheardRun.2.registries.events.get? 1).isSome = true ↔
          (shown 1 unheardRun.1).getLast? = some .stopped) := by
  have hovertaken : (overtakenRun.2.session.state = .dispatching ∧
      overtakenRun.2.session.work = [] ∧ overtakenRun.2.pump = []) ∧
      (∀ x ∈ overtakenRun.1, x.isReport = false) ∧
      shown 1 overtakenRun.1 = [.continued, .stopped] ∧
      (overtakenRun.2.registries.events.get? 1).isSome = false := by
    decide +kernel
  have hunheard : (unheardRun.2.session.state = .dispatching ∧
      unheardRun.2.session.work = [] ∧ unheardRun.2.pump = []) ∧
      (∀ x ∈ unheardRun.1, x.isReport = false) ∧
      shown 1 unheardRun.1 = [] ∧ (unheardRun.2.registries.events.get? 1).isSome = true := by
    decide +kernel
  obtain ⟨⟨hstate, hwork, hpump⟩, halone, hshown, hlive⟩ := hovertaken
  obtain ⟨⟨hstate', hwork', hpump'⟩, halone', hshown', hlive'⟩ := hunheard
  refine ⟨⟨⟨⟨trivial, trivial⟩, halone⟩, ⟨hstate, hwork, hpump⟩, hshown, ?_⟩,
    ⟨⟨trivial, trivial⟩, halone'⟩, ⟨hstate', hwork', hpump'⟩, hshown', ?_⟩
  · rw [hshown, hlive]
    decide
  · rw [hshown', hlive']
    decide

end DebugAdapter.Evaluation
