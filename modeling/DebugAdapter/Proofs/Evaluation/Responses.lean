import DebugAdapter.Proofs.Evaluation.Responses.Answering

/-! # Every request is answered once

Over a connection that works the session answers the requests that it works on one after the
other, each with one response that fits, whatever the pump posts in between. -/

namespace DebugAdapter.Evaluation

open Debuggee Protocol Session

section Step

variable {start : Outbox} {log : List Happening} {s t : System}

/-! ## Steps of the pump -/

theorem isEvent_planItem {item : Item} {m : Message} (h : .send m ∈ planItem item) :
    IsEvent m := by
  cases item with
  | output | exited =>
    obtain rfl := PumpTask.send.inj (List.mem_singleton.mp h)
    exact isEvent_ofBody _
  | terminated =>
    rcases List.mem_cons.mp h with h | h
    · exact nomatch h
    · obtain rfl := PumpTask.send.inj (List.mem_singleton.mp h)
      exact isEvent_named (by decide)
  | stopped => simp [planItem] at h

theorem isEvent_pumpPerform {task : PumpTask} {rest : List PumpTask}
    (h : ∀ m, .send m ∈ rest → IsEvent m) (m : Message)
    (hm : .send m ∈ (s.pumpPerform rest task).pump) : IsEvent m := by
  have hcons : ∀ {other : PumpTask}, (∀ m, other ≠ .send m) → .send m ∈ other :: rest →
      IsEvent m := by
    intro other hother hmem
    rcases List.mem_cons.mp hmem with heq | hmem
    · exact absurd heq.symm (hother m)
    · exact h m hmem
  cases task with
  | send | cancel | purgeEvents | purgeFrames | purgeVariables | retain => exact h m hm
  | listStopped =>
    rcases List.mem_append.mp hm with hmem | hmem
    · obtain ⟨thread, -, heq⟩ := List.mem_map.mp hmem
      exact nomatch heq
    · exact h m hmem
  | findStop thread =>
    rw [System.pumpPerform] at hm
    dsimp only at hm
    split at hm
    · exact hcons (fun _ => PumpTask.noConfusion) hm
    · exact h m hm
  | record report resume ids scopes frames =>
    cases frames with
    | nil => exact hcons (fun _ => PumpTask.noConfusion) hm
    | cons frame frames =>
      rw [System.pumpPerform] at hm
      dsimp only at hm
      split at hm <;> exact hcons (fun _ => PumpTask.noConfusion) hm
  | announce report =>
    rw [System.pumpPerform] at hm
    dsimp only at hm
    split at hm
    · simp only [List.mem_cons, reduceCtorEq, false_or] at hm
      exact h m hm
    · rcases List.mem_cons.mp hm with heq | hmem
      · obtain rfl := PumpTask.send.inj heq
        exact isEvent_ofBody _
      · exact h m hmem

/-- What the pump posts gets through, unless the session closed the connection before. -/
theorem Serving.pumpSend {m : Message} {rest : List PumpTask} (h : Serving start log s)
    (hroom : s.outbox.seq + 1 < 2 ^ 63) (hpump : s.pump = .send m :: rest) :
    Serving start (log ++ [System.posting .pump m s.outbox (s.outbox.post m)])
      { s with outbox := (s.outbox.post m).2, pump := rest } := by
  have hevent : IsEvent m := h.pump m (hpump ▸ List.mem_cons_self)
  have hrest : ∀ m, .send m ∈ rest → IsEvent m :=
    fun m hm => h.pump m (hpump ▸ List.mem_cons_of_mem _ hm)
  obtain ⟨e, rfl, hsendable⟩ := hevent
  rcases h.connection with ⟨hclosed, hwork, hdetached⟩ | ⟨hopen, haccepts⟩
  · obtain ⟨o', hpost, hsink, hseq⟩ := Outbox.post_of_detached hsendable hdetached hroom
    rw [hpost]
    refine h.of_unsent ⟨rfl, rfl, ?_⟩ (.inl ⟨hclosed, hwork, hsink ▸ hdetached⟩)
      (congrArg Sink.bytes hsink) hseq (fun _ => id) hrest
    intro sender m result bytes hmem
    obtain ⟨rfl, rfl, rfl, rfl⟩ := Happening.posted.inj (List.mem_singleton.mp hmem)
    exact ⟨.inr ⟨_, rfl⟩, (nomatch ·), fun _ => ⟨e, rfl, hsendable⟩⟩
  · obtain ⟨payload, o', hpost, hdelivered⟩ := Outbox.post_of_accepts hsendable haccepts hroom
    rw [hpost]
    obtain ⟨pending, hmatched, howes⟩ := h.matched
    exact .of_post h.carried h.posts hdelivered hopen ⟨.inl rfl, nofun, fun _ => ⟨e, rfl, hsendable⟩⟩
      ⟨pending, hmatched.event ⟨e, rfl, hsendable⟩, howes⟩ hrest

theorem outbox_pumpPerform (s : System) (rest : List PumpTask) {task : PumpTask}
    (h : ∀ m, task ≠ .send m) : (s.pumpPerform rest task).outbox = s.outbox := by
  cases task with
  | send m => exact absurd rfl (h m)
  | record report resume ids scopes frames =>
    cases frames with
    | nil => rfl
    | cons frame frames =>
      rw [System.pumpPerform]
      dsimp only
      split <;> rfl
  | _ => rfl

theorem pumpHappenings_of_notSend (s : System) (h : ∀ m rest, s.pump ≠ .send m :: rest) :
    ∀ x ∈ s.pumpHappenings, x.IsSilent := by
  intro x hx
  unfold System.pumpHappenings at hx
  split at hx
  · rename_i heq
    exact absurd heq (h _ _)
  · obtain rfl := List.mem_singleton.mp hx
    trivial
  · exact absurd hx List.not_mem_nil
  · obtain ⟨item, -, rfl⟩ := Option.map_eq_some_iff.mp (Option.mem_toList.mp hx)
    trivial

theorem serving_pump (h : Serving start log s) (hmodest : Modest start (log ++ s.pumpHappenings))
    (hstep : s.pump? = some t) : Serving start (log ++ s.pumpHappenings) t := by
  have hkept := System.keptByPump hstep
  cases System.pumpStep hstep with
  | @performs task rest hpump =>
    have hrest : ∀ m, .send m ∈ rest → IsEvent m :=
      fun m hm => h.pump m (hpump ▸ List.mem_cons_of_mem _ hm)
    by_cases hsend : ∃ m, task = .send m
    · obtain ⟨m, rfl⟩ := hsend
      have hhappens : s.pumpHappenings = [System.posting .pump m s.outbox (s.outbox.post m)] := by
        unfold System.pumpHappenings
        rw [hpump]
      rw [hhappens]
      exact h.pumpSend (h.room hmodest.of_append) hpump
    · refine h.of_aside (pumpHappenings_of_notSend s ?_) ?_ hkept.session_eq
        (isEvent_pumpPerform hrest)
      · intro m _ heq
        exact hsend ⟨m, (List.cons.inj (hpump.symm.trans heq)).1⟩
      · exact outbox_pumpPerform s rest fun m heq => hsend ⟨m, heq⟩
  | takes hpump =>
    have hsilent := pumpHappenings_of_notSend s fun m rest heq => nomatch hpump.symm.trans heq
    exact h.of_aside hsilent rfl rfl fun _ => isEvent_planItem

end Step

/-! ## Runs -/

theorem Happening.IsOfEngine.isSilent {x : Happening} (h : x.IsOfEngine) : x.IsSilent := by
  cases x with
  | enqueued | reported | returned => trivial
  | _ => exact h.elim

theorem serving_move {start : Outbox} {log : List Happening} {s t : System} {move : Move}
    (h : Serving start log s) (hmodest : Modest start (log ++ s.happenings move))
    (hmove : s.move? move = some t) : Serving start (log ++ s.happenings move) t := by
  cases System.moved hmove with
  | session hstep =>
    have hstep := System.sessionStep hstep
    rw [System.happenings] at hmodest ⊢
    generalize s.sessionHappenings = more at hstep hmodest
    cases hstep with
    | performs hwork => exact serving_perform h hmodest hwork
    | hears hwork hopen hreceive =>
      exact serving_heard h hmodest hopen hwork (System.heard hreceive)
  | pump hstep => exact serving_pump h hmodest hstep
  | engine hkept hmore =>
    exact h.of_aside (fun x hx => (hmore x hx).isSilent) hkept.outbox_eq hkept.session_eq
      (hkept.pump_eq ▸ h.pump)
  | client hmore =>
    rw [hmore]
    exact h.of_unsent .nil h.connection rfl rfl (fun _ => id) h.pump

theorem serving_play (script : Script) (decoder : Framing.Decoder) {outbox : Outbox}
    (haccepts : outbox.sink.Accepts) (moves : List Move)
    (hmodest : Modest outbox (System.play moves (.starting script decoder outbox)).1) :
    Serving outbox (System.play moves (.starting script decoder outbox)).1
      (System.play moves (.starting script decoder outbox)).2 := by
  refine System.play_induction (P := fun log t => Modest outbox log → Serving outbox log t)
    (fun _ => ?_) ?_ moves hmodest
  · exact ⟨.inr ⟨State.noConfusion, haccepts⟩, .nil _, ⟨none, ⟨[], rfl, .nil⟩, .nil⟩,
      fun _ _ _ _ h => absurd h List.not_mem_nil, fun _ h => absurd h List.not_mem_nil⟩
  · exact fun log t move u h hmove hmodest => serving_move (h hmodest.of_append) hmodest hmove

/-- What comes of the requests of a client over a connection that works. -/
structure Answered (start : Outbox) (log : List Happening) (s : System) : Prop where
  /-- The wire has the frames of the messages that got through, and nothing else. -/
  carried : Carried start (sent log) s.outbox
  /-- The responses among them belong to the requests that were worked on, one to one and in
  order. A request that is not answered yet is the last one, and the session still works on it. -/
  matched : ∃ pending, Matched pending log ∧ (s.session.work = [] → pending = none)
  /-- What the session posts gets through, the pump posts events, and no message is refused for
  what it is. -/
  posts : ∀ sender m result bytes, .posted sender m result bytes ∈ log → Orderly sender m result

/-- Over a connection that works every request that the session works on is answered by one
response that belongs to it, in the order of the requests, whatever the threads do in between and
whatever else the client sends. -/
theorem answered_play (script : Script) (decoder : Framing.Decoder) {outbox : Outbox}
    (haccepts : outbox.sink.Accepts) (moves : List Move)
    (hmodest : Modest outbox (System.play moves (.starting script decoder outbox)).1) :
    Answered outbox (System.play moves (.starting script decoder outbox)).1
      (System.play moves (.starting script decoder outbox)).2 := by
  obtain ⟨-, hcarried, ⟨pending, hmatched, howes⟩, hposts, -⟩ :=
    serving_play script decoder haccepts moves hmodest
  refine ⟨hcarried, ⟨pending, hmatched, fun hwork => ?_⟩, hposts⟩
  rw [hwork] at howes
  exact howes.eq_none_of_nil

/-- A client that opens a session, lets the program run and asks for its threads. -/
def inquirer : Framing.Decoder where
  source :=
    { feed :=
        { rest :=
            [ "\x7b\"seq\":1,\"type\":\"request\",\"command\":\"initialize\"," ++
                "\"arguments\":\x7b\"adapterID\":\"a\"\x7d\x7d",
              "\x7b\"seq\":2,\"type\":\"request\",\"command\":\"configurationDone\"\x7d",
              "\x7b\"seq\":3,\"type\":\"request\",\"command\":\"threads\"\x7d"].flatMap
              fun text => Framing.frame (Utf8.encode text)
          pace := fun _ => 99 } }

/-- The program ends at once, and the client learns it before its last request is answered. -/
def inquiry : List Move := turns [(5, .session), (4, .engine), (5, .pump), (3, .session)]

/-- What happens then, and what comes of it. -/
def inquiryRun : List Happening × System :=
  System.play inquiry (.starting (.finish (.success 0)) inquirer {})

theorem answered_play_inquiry :
    Sink.Accepts (Outbox.sink {}) ∧ Modest {} inquiryRun.1 ∧
      (responses inquiryRun.1).map (·.command) = ["initialize", "configurationDone", "threads"] ∧
      Answered {} inquiryRun.1 inquiryRun.2 := by
  have haccepts : Sink.Accepts (Outbox.sink {}) := .default
  have hrun : Outbox.seq {} + (sent inquiryRun.1).length + 1 < 2 ^ 63 ∧
      (∀ r ∈ requests inquiryRun.1, 0 < r.seq ∧ r.command ≠ "") ∧
      (responses inquiryRun.1).map (·.command) =
        ["initialize", "configurationDone", "threads"] := by
    decide +kernel
  obtain ⟨hroom, hrequests, hresponses⟩ := hrun
  have hmodest : Modest {} inquiryRun.1 := ⟨hroom, hrequests⟩
  exact ⟨haccepts, hmodest, hresponses, answered_play _ inquirer haccepts inquiry hmodest⟩

end DebugAdapter.Evaluation
