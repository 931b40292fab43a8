import DebugAdapter.Proofs.Evaluation.Agenda.Errands

/-! # Attending to the client

A session that hears from its client gets an errand or has to leave, and a task of an errand leaves
the rest of the errand. -/

namespace DebugAdapter.Evaluation

open Debuggee Protocol Session

variable {s t : System}

/-! ## Hearing from the client -/

/-- What a session has to do after it has heard from its client. -/
inductive Attends (s : System) : List Happening → System → Prop where
  | takesUp {m : Message} {next : System} (hstate : s.session.state = .dispatching)
      (hnext : next.session.state = .dispatching)
      (hwork : next.session.work = planMessage s.session.started m) : Attends s [.handled m] next
  | opens {r : Request} {x : Happening} {next : System} (hstate : s.session.state ≠ .dispatching)
      (hnext : next.session.state = .dispatching)
      (hwork : next.session.work = s.session.work) (hr : r.command = openingCommand)
      (hx : x.handled? = none) : Attends s [.handled (.request r), x] next
  | leaves {next : System} (hstate : s.session.state = .dispatching)
      (hnext : next.session.state = .terminating) (hwork : next.session.work = farewellTasks)
      (hheld : next.session.held = none) : Attends s [] next
  | givesUp {more : List Happening} {next : System} (hstate : s.session.state ≠ .dispatching)
      (hnext : next.session.state =
        if s.session.state = .created then .opening else s.session.state)
      (hwork : next.session.work = [.close]) (hheld : next.session.held = none)
      (hmore : ∀ r, .request r ∈ handleds more → r.command = openingCommand) :
      Attends s more next

theorem endWith_of_dispatching (result : Except Error Unit)
    (h : s.session.state = .dispatching) :
    (s.endWith result).session.state = .terminating ∧
      (s.endWith result).session.work = farewellTasks ∧
      (s.endWith result).session.held = none := by
  rw [System.endWith, h]
  exact ⟨rfl, rfl, rfl⟩

theorem Attends.leave (hopen : s.session.state = .dispatching)
    (hstate : t.session.state = .dispatching) (result : Except Error Unit) :
    Attends s [] (t.endWith result) := by
  obtain ⟨hnext, hwork, hheld⟩ := endWith_of_dispatching result hstate
  exact .leaves hopen hnext hwork hheld

theorem Attends.giveUp {more : List Happening} (hclosed : s.session.state ≠ .dispatching)
    (hstate : t.session.state = if s.session.state = .created then .opening else s.session.state)
    (hmore : ∀ r, .request r ∈ handleds more → r.command = openingCommand)
    (result : Except Error Unit) : Attends s more (t.endWith result) := by
  have hopened : (t.session.state == State.dispatching) = false := by
    rw [hstate, beq_eq_false_iff_ne]
    exact mt (System.opening_eq_dispatching s.session.state).mp hclosed
  refine .givesUp hclosed ?_ ?_ ?_ hmore <;> rw [System.endWith, hopened]
  · exact hstate
  · rfl

theorem attends (h : s.receive? = some t) : Attends s s.hearing t := by
  unfold System.receive? at h
  unfold System.hearing System.arriving
  generalize hdecode : s.session.decoder.decode = decoded at h ⊢
  obtain ⟨result, decoder⟩ := decoded
  dsimp only at h
  split at h
  · exact nomatch h
  obtain rfl := Option.some.inj h
  have hsame := System.opening_eq_dispatching s.session.state
  by_cases hopen : s.session.state = .dispatching
  · have hstill := hsame.mpr hopen
    cases result with
    | error e =>
      cases e with
      | connectionClosed =>
        dsimp only
        rw [System.arrive, if_pos hstill]
        exact .leave hopen hstill _
      | _ => exact .leave hopen hstill _
    | ok m =>
      dsimp only
      rw [if_pos hopen, System.arrive, if_pos hstill]
      exact .takesUp hopen hstill rfl
  · have hstill := mt hsame.mp hopen
    have hnone : ∀ r, .request r ∈ handleds [] → r.command = openingCommand :=
      fun _ h => absurd h List.not_mem_nil
    cases result with
    | error e =>
      cases e with
      | connectionClosed =>
        dsimp only
        rw [System.arrive, if_neg hstill]
        exact .giveUp hopen rfl hnone _
      | _ => exact .giveUp hopen rfl hnone _
    | ok m =>
      dsimp only
      rw [if_neg hopen, System.arrive, if_neg hstill]
      cases hrequest : opening? (some m) with
      | error reason => exact .giveUp hopen rfl hnone _
      | ok found =>
        obtain ⟨request, arguments⟩ := found
        obtain ⟨_, hm, rfl, hcommand, -⟩ := opens_of_opening? hrequest
        obtain rfl := Option.some.inj hm
        dsimp only
        rcases (s.outbox.record (.inbound decoder.lastPayload)).respondSuccess request
          (some (.capabilities capabilities)) with ⟨_ | e, o⟩
        · refine .giveUp hopen rfl (fun r hr => ?_) _
          obtain rfl : r = request := by simpa [handleds, Happening.handled?, System.posting] using hr
          exact hcommand
        · exact .opens hopen rfl rfl hcommand rfl

/-! ## Doing errands -/

/-- How a session does the next task for a message: it goes on with the errand, or it leaves. -/
inductive Proceeds (wasStarted : Bool) (flow : Flow) (tasks : List Task) (next : System) : Prop where
  | leaves (hstate : next.session.state = .terminating)
      (hwork : next.session.work = farewellTasks) (hheld : next.session.held = none)
  | goesOn {thread : Option Int64} {left : List Task} (hstate : next.session.state = .dispatching)
      (herrand : Errand thread left)
      (hwork : next.session.work = left ++ [.decide wasStarted flow])
      (hstart : .start ∈ left → .start ∈ tasks)
      (hcancel : .cancel ∈ tasks → .cancel ∈ left ∨ next.cancelled = true)

theorem Proceeds.sent {wasStarted : Bool} {flow : Flow} {task : Task} {thread : Option Int64}
    {left : List Task} (hstate : s.session.state = .dispatching) (herrand : Errand thread left)
    (htask : task ≠ .cancel) (outcome : Except Error Unit × Outbox) :
    Proceeds wasStarted flow (task :: left) (s.sent (left ++ [Task.decide wasStarted flow]) outcome) := by
  rcases outcome with ⟨e | _, o⟩
  · obtain ⟨hnext, hwork, hheld⟩ :=
      endWith_of_dispatching (s := { s with outbox := o }) (.error (.handler [e.message])) hstate
    rw [System.sent, if_pos hstate]
    exact .leaves hnext hwork hheld
  · refine .goesOn hstate herrand rfl (List.mem_cons_of_mem _) fun hcancel => .inl ?_
    exact (List.mem_cons.mp hcancel).resolve_left htask.symm

/-- A task that finds out what to answer leaves a task that answers, or another that looks. Only a
request to go on that is accepted leaves more. -/
theorem Proceeds.look {wasStarted : Bool} {flow : Flow} {task : Task}
    (hstate : s.session.state = .dispatching) (htask : task.IsLook) :
    Proceeds wasStarted flow [task] (s.perform [.decide wasStarted flow] task) := by
  have hone : ∀ {next : System} {one : Task}, next.session.state = .dispatching →
      next.session.work = [one, .decide wasStarted flow] → Errand none [one] → one ≠ .start →
      Proceeds wasStarted flow [task] next := by
    intro next one hnext hwork herrand hone
    refine .goesOn hnext herrand hwork (fun h => ?_) (fun h => ?_)
    · exact absurd (List.mem_singleton.mp h).symm hone
    · cases List.mem_singleton.mp h
      exact htask.elim
  cases task with
  | findStop request arguments =>
    rw [System.perform]
    split
    · exact hone hstate rfl .fail Task.noConfusion
    · exact hone hstate rfl (.look trivial) Task.noConfusion
  | findFrames request arguments ids found =>
    cases ids with
    | nil => exact hone hstate rfl (.respond _ _) Task.noConfusion
    | cons => exact hone hstate rfl (.look trivial) Task.noConfusion
  | findScopes request arguments | findVariables request arguments =>
    rw [System.perform]
    split
    · exact hone hstate rfl (.respond _ _) Task.noConfusion
    · exact hone hstate rfl .fail Task.noConfusion
  | release request arguments =>
    rw [System.perform]
    split
    · exact hone hstate rfl .fail Task.noConfusion
    · have herrand : Errand (some arguments.threadId)
          (.purgeFrames :: .purgeVariables ::
            .respond request (some (.resumed { allThreadsContinued := some false })) ::
            [.send (continuation arguments.threadId), .resume]) :=
        .passing trivial (.passing trivial (.passing rfl .telling))
      refine .goesOn hstate herrand rfl (fun h => ?_) (fun h => ?_)
      · simp [Task.respond] at h
      · simp at h
  | _ => exact htask.elim

theorem proceeds_perform {wasStarted : Bool} {flow : Flow} {thread : Option Int64} {task : Task}
    {tasks : List Task} (hstate : s.session.state = .dispatching)
    (herrand : Errand thread (task :: tasks)) :
    Proceeds wasStarted flow (task :: tasks)
      (s.perform (tasks ++ [Task.decide wasStarted flow]) task) := by
  cases herrand with
  | fail => exact .sent hstate .nil Task.noConfusion _
  | start =>
    rcases perform_start s [.decide wasStarted flow] with ⟨h, -⟩ | ⟨-, -, h⟩ <;>
      rw [List.nil_append, h] <;>
      exact .goesOn hstate .nil rfl (fun h => absurd h List.not_mem_nil) (fun h => by simp at h)
  | look h => exact .look hstate h
  | cancel h =>
    have hsend : Errand none [.send _] := .passing h .nil
    exact .goesOn hstate hsend rfl (List.mem_cons_of_mem _) fun _ => .inr rfl
  | passing h hrest =>
    cases task with
    | send m => exact .sent hstate hrest Task.noConfusion _
    | purgeFrames | purgeVariables =>
      exact .goesOn hstate hrest rfl (List.mem_cons_of_mem _) fun h => .inl (by simpa using h)
    | _ => exact h.elim
  | @telling thread =>
    have hrest : Errand (some thread) [.resume] := .resuming
    exact .sent hstate hrest Task.noConfusion _
  | resuming =>
    exact .goesOn hstate .nil rfl (fun h => absurd h List.not_mem_nil) (fun h => by simp at h)

end DebugAdapter.Evaluation
