import DebugAdapter.Proofs.Evaluation.Production
import DebugAdapter.Proofs.Evaluation.Responses

/-! # Delivery

The pump takes what an evaluation produced, one item after the other. It is done with an item when it
has posted the message for it. Over a connection that works until the session closes it, the client
gets each of them once and in order; a stop is left out if the session is over by then. -/

namespace DebugAdapter.Evaluation

open Debuggee Protocol Session

/-! ## The connection -/

section Posting

variable {start o : Outbox} {messages : List Message} {m : Message}
  {outcome : Except Error Unit × Outbox}

/-- Over a connection that works a message gets through, or it is refused for what it is. -/
theorem accepts_post (hpost : o.post m = outcome) (h : o.sink.Accepts) (hroom : o.seq + 1 < 2 ^ 63)
    (hcarried : Carried start messages o) (sender : Actor) :
    outcome.2.sink.Accepts ∧
      ∀ bytes, Carried start (messages ++ sent [.posted sender m outcome.1 bytes]) outcome.2 := by
  subst hpost
  rw [Outbox.post, Outbox.send]
  dsimp only
  cases hpayload : (m.withSeq (Int64.ofNat (o.seq + 1))).toPayload with
  | error e => exact ⟨h, fun _ => (List.append_nil messages).symm ▸ hcarried⟩
  | ok payload =>
    obtain ⟨encoder, hwrite, haccepts, hbytes⟩ := Framing.Encoder.writeFrame_of_accepts payload h
    dsimp only
    rw [hwrite]
    exact ⟨haccepts, fun _ => hcarried.snoc
      ⟨numbered_of_toPayload (Nat.le_of_lt hroom) hpayload, haccepts, rfl, hbytes⟩⟩

/-- After the connection was closed nothing gets through. -/
theorem detached_post (hpost : o.post m = outcome) (h : o.sink.attached = false)
    (hcarried : Carried start messages o) (sender : Actor) :
    outcome.2.sink = o.sink ∧
      ∀ bytes, Carried start (messages ++ sent [.posted sender m outcome.1 bytes]) outcome.2 := by
  subst hpost
  rw [Outbox.post, Outbox.send]
  dsimp only
  cases (m.withSeq (Int64.ofNat (o.seq + 1))).toPayload with
  | error e => exact ⟨rfl, fun _ => (List.append_nil messages).symm ▸ hcarried⟩
  | ok payload =>
    obtain ⟨encoder, hwrite, hsame⟩ := Framing.Encoder.writeFrame_of_detached payload h
    dsimp only
    rw [hwrite]
    refine ⟨hsame, fun _ => (List.append_nil messages).symm ▸ ?_⟩
    exact hcarried.of_same (congrArg Sink.bytes hsame) rfl

end Posting

/-- The connection works until the session closes it, and the wire has what got through. -/
structure Connected (start : Outbox) (log : List Happening) (s : System) : Prop where
  connection :
    (s.session.state = .closed ∧ s.session.work = [] ∧ s.outbox.sink.attached = false) ∨
    (s.session.state ≠ .closed ∧ s.outbox.sink.Accepts)
  carried : Carried start (sent log) s.outbox

section Step

variable {start : Outbox} {log : List Happening} {s t : System}

theorem Connected.of_open {more : List Happening} (hstate : t.session.state ≠ .closed)
    (haccepts : t.outbox.sink.Accepts) (hcarried : Carried start (sent log ++ sent more) t.outbox) :
    Connected start (log ++ more) t where
  connection := .inr ⟨hstate, haccepts⟩
  carried := by rw [sent_append]; exact hcarried

theorem Connected.room (h : Connected start log s)
    (hroom : start.seq + (sent log).length + 1 < 2 ^ 63) : s.outbox.seq + 1 < 2 ^ 63 := by
  rw [h.carried.seq_eq]
  exact hroom

/-- A step that posts nothing and leaves the connection as it is. -/
theorem Connected.of_silent {more : List Happening} (h : Connected start log s)
    (hmore : ∀ x ∈ more, x.IsSilent) (houtbox : t.outbox = s.outbox)
    (hsession : t.session.state = s.session.state ∧ t.session.work = s.session.work) :
    Connected start (log ++ more) t where
  connection := by
    rw [houtbox, hsession.1, hsession.2]
    exact h.connection
  carried := by
    rw [houtbox, sent_append, (Unsent.of_silent hmore).sent_eq, List.append_nil]
    exact h.carried

theorem Connected.open_of_work (h : Connected start log s) (hwork : s.session.work ≠ []) :
    s.session.state ≠ .closed ∧ s.outbox.sink.Accepts :=
  h.connection.resolve_left fun hclosed => hwork hclosed.2.1

theorem endWith_ne_closed (result : Except Error Unit) (h : s.session.state ≠ .closed) :
    (s.endWith result).session.state ≠ .closed := by
  rw [System.endWith_state]
  split
  · exact State.noConfusion
  · exact h

theorem sent_ne_closed (rest : List Task) (outcome : Except Error Unit × Outbox)
    (h : s.session.state ≠ .closed) : (s.sent rest outcome).session.state ≠ .closed := by
  obtain ⟨_ | _, _⟩ := outcome
  · exact endWith_ne_closed _ h
  · exact h

theorem Connected.perform {task : Task} {rest : List Task} (h : Connected start log s)
    (hroom : start.seq + (sent log).length + 1 < 2 ^ 63) (hwork : s.session.work = task :: rest) :
    Connected start (log ++ s.performing task) (s.perform rest task) := by
  obtain ⟨hopen, haccepts⟩ := h.open_of_work (hwork ▸ List.cons_ne_nil _ _)
  by_cases hsilent : task.IsSilent
  · have hpasses := passes_perform s rest hsilent
    have hnone := (Unsent.of_silent (performing_of_silent s hsilent)).sent_eq
    refine .of_open (hpasses.state_ne hopen) (hpasses.outbox_eq ▸ haccepts) ?_
    rw [hpasses.outbox_eq, hnone, List.append_nil]
    exact h.carried
  cases task with
  | send m =>
    obtain ⟨hstill, hcarried⟩ := accepts_post (m := m) rfl haccepts (h.room hroom) h.carried .session
    exact .of_open (sent_ne_closed _ _ hopen) ((s.outbox_sent _ _).symm ▸ hstill)
      ((s.outbox_sent _ _).symm ▸ hcarried _)
  | fail request text =>
    obtain ⟨journal, hrespond⟩ := s.outbox.respondError_eq request text
    rw [System.perform, System.performing, System.posting, hrespond]
    obtain ⟨hstill, hcarried⟩ := accepts_post (o := { s.outbox with journal }) rfl haccepts
      (h.room hroom) (h.carried.of_same rfl rfl) .session
    exact .of_open (sent_ne_closed _ _ hopen) ((s.outbox_sent _ _).symm ▸ hstill)
      ((s.outbox_sent _ _).symm ▸ hcarried _)
  | farewell =>
    obtain ⟨problems, hfarewell⟩ := s.farewell_eq rest
    rw [hfarewell, System.performing, Outbox.event_eq]
    obtain ⟨hstill, hcarried⟩ := accepts_post (m := .event { event := "terminated" }) rfl haccepts
      (h.room hroom) h.carried .session
    exact .of_open hopen hstill (hcarried _)
  | close =>
    obtain ⟨decoder, problems, hclose⟩ := s.close_eq
    have hnone : s.performing .close = [] := rfl
    rw [System.perform, hclose, hnone, List.append_nil]
    exact ⟨.inl ⟨rfl, rfl, haccepts.attached_close⟩,
      h.carried.of_same (Sink.bytes_close s.outbox.sink) rfl⟩
  | _ => exact absurd trivial hsilent

theorem Connected.heard {more : List Happening} (h : Connected start log s)
    (hroom : start.seq + (sent log).length + 1 < 2 ^ 63) (hopen : s.session.state ≠ .closed)
    (hheard : System.Heard s more t) : Connected start (log ++ more) t := by
  obtain ⟨-, haccepts⟩ := h.connection.resolve_left fun hclosed => hopen hclosed.1
  cases hheard with
  | @message m decoder _ _ =>
    obtain ⟨hsink, hseq⟩ :
        (announce m (s.outbox.record (.inbound decoder.lastPayload))).sink = s.outbox.sink ∧
          (announce m (s.outbox.record (.inbound decoder.lastPayload))).seq = s.outbox.seq := by
      cases m <;> exact ⟨rfl, rfl⟩
    refine .of_open hopen (hsink.symm ▸ haccepts) ?_
    exact (List.append_nil (sent log)).symm ▸ h.carried.of_same (congrArg Sink.bytes hsink) hseq
  | opened _ _ _ hrecord hpost =>
    subst hrecord
    obtain ⟨hstill, hcarried⟩ :=
      accepts_post hpost haccepts (h.room hroom) (h.carried.of_same rfl rfl) .session
    exact .of_open State.noConfusion hstill (hcarried [])
  | unanswered _ hstate _ _ hrecord hpost =>
    subst hrecord
    obtain ⟨hstill, hcarried⟩ :=
      accepts_post hpost haccepts (h.room hroom) (h.carried.of_same rfl rfl) .session
    exact .of_open (endWith_ne_closed _ (mt hstate hopen)) hstill (hcarried [])
  | ended hstate hsink hseq =>
    refine .of_open (endWith_ne_closed _ (mt hstate hopen)) (hsink ▸ haccepts) ?_
    exact (List.append_nil (sent log)).symm ▸ h.carried.of_same (congrArg Sink.bytes hsink) hseq

theorem Connected.pump (h : Connected start log s)
    (hroom : start.seq + (sent log).length + 1 < 2 ^ 63) (hstep : s.pump? = some t) :
    Connected start (log ++ s.pumpHappenings) t := by
  have hkept := System.keptByPump hstep
  cases System.pumpStep hstep with
  | @performs task rest hpump =>
    by_cases hsend : ∃ m, task = .send m
    · obtain ⟨m, rfl⟩ := hsend
      rw [System.pumpHappenings, hpump]
      rcases h.connection with ⟨hclosed, hwork, hdetached⟩ | ⟨hopen, haccepts⟩
      · obtain ⟨hsame, hcarried⟩ := detached_post (m := m) rfl hdetached h.carried .pump
        refine ⟨.inl ⟨hclosed, hwork, (congrArg Sink.attached hsame).trans hdetached⟩, ?_⟩
        rw [sent_append]
        exact hcarried _
      · obtain ⟨hstill, hcarried⟩ :=
          accepts_post (m := m) rfl haccepts (h.room hroom) h.carried .pump
        exact .of_open hopen hstill (hcarried _)
    · refine h.of_silent (pumpHappenings_of_notSend s fun m _ heq => hsend ⟨m, ?_⟩)
        (outbox_pumpPerform s rest fun m heq => hsend ⟨m, heq⟩)
        ⟨congrArg SessionThread.state hkept.session_eq, congrArg SessionThread.work hkept.session_eq⟩
      exact (List.cons.inj (hpump.symm.trans heq)).1
  | takes hpump =>
    have hsilent := pumpHappenings_of_notSend s fun m rest heq => by cases hpump.symm.trans heq
    exact h.of_silent hsilent rfl ⟨rfl, rfl⟩

theorem Connected.move {move : Move} (h : Connected start log s)
    (hroom : start.seq + (sent log).length + 1 < 2 ^ 63) (hmove : s.move? move = some t) :
    Connected start (log ++ s.happenings move) t := by
  cases System.moved hmove with
  | session hstep =>
    have hstep := System.sessionStep hstep
    rw [System.happenings]
    generalize s.sessionHappenings = more at hstep
    cases hstep with
    | performs hwork => exact h.perform hroom hwork
    | hears _ hopen hreceive => exact h.heard hroom hopen (System.heard hreceive)
  | pump hstep => exact h.pump hroom hstep
  | engine hkept hmore =>
    exact h.of_silent (fun x hx => (hmore x hx).isSilent) hkept.outbox_eq
      ⟨hkept.session_eq ▸ rfl, hkept.session_eq ▸ rfl⟩
  | client hmore =>
    rw [hmore]
    exact h.of_silent (fun _ hx => absurd hx List.not_mem_nil) rfl ⟨rfl, rfl⟩

/-! ## The work on an item -/

/-- The task ends the work on an item, or decides how it ends. -/
def PumpTask.IsLast : PumpTask → Prop
  | .send _ | .announce _ => True
  | _ => False

/-- What the pump still has to do for the item that it works on: at the end it posts the message for
it, or decides whether to. -/
inductive Underway : Option Item → List PumpTask → Prop where
  | idle : Underway none []
  | posts (item : Item) : Underway (some item) [.send item.message]
  | decides (report : DebugStop) (c : Channel) : Underway (some (.stopped report c)) [.announce report]
  | prepares {pending : Option Item} {task : PumpTask} {rest : List PumpTask} (htask : ¬task.IsLast)
      (hrest : Underway pending rest) : Underway pending (task :: rest)

theorem Underway.append {pending : Option Item} {tasks rest : List PumpTask}
    (htasks : ∀ task ∈ tasks, ¬task.IsLast) (hrest : Underway pending rest) :
    Underway pending (tasks ++ rest) := by
  induction tasks with
  | nil => exact hrest
  | cons task tasks ih =>
    exact .prepares (htasks task List.mem_cons_self)
      (ih fun other hmem => htasks other (List.mem_cons_of_mem _ hmem))

theorem underway_planItem (item : Item) : Underway (some item) (planItem item) := by
  have hskip : ∀ {pending task rest}, ¬PumpTask.IsLast task → Underway pending rest →
      Underway pending (task :: rest) := .prepares
  cases item with
  | output category text => exact .posts (.output category text)
  | exited code => exact .posts (.exited code)
  | terminated => exact hskip id (.posts .terminated)
  | stopped report c =>
    exact hskip id (hskip id (hskip id (hskip id (.decides report c))))

/-- What comes of a task that is not the last one. -/
theorem underway_pumpPerform {pending : Option Item} {task : PumpTask} {rest : List PumpTask}
    (htask : ¬task.IsLast) (hrest : Underway pending rest) :
    Underway pending (s.pumpPerform rest task).pump := by
  cases task with
  | send | announce => exact absurd trivial htask
  | cancel | purgeEvents | purgeFrames | purgeVariables | retain => exact hrest
  | listStopped =>
    refine .append (fun other hmem => ?_) hrest
    obtain ⟨thread, -, rfl⟩ := List.mem_map.mp hmem
    exact id
  | findStop thread =>
    rw [System.pumpPerform]
    dsimp only
    split
    · exact .prepares id hrest
    · exact hrest
  | record report resume ids scopes frames =>
    cases frames with
    | nil => exact .prepares id hrest
    | cons frame frames =>
      rw [System.pumpPerform]
      dsimp only
      split <;> exact .prepares id hrest

/-! ## The end of the work on an item -/

/-- The pump is done with an item: it posts a message, or it finds that the context is done when a
stop was to be announced. -/
def Transition.settles (x : Transition) : Bool :=
  x.move = .step .pump && match x.before.pump with
    | .send _ :: _ => true
    | .announce _ :: _ => x.before.cancelled
    | _ => false
/-- What becomes of an item when the pump is done with it. -/
inductive Settles (item : Item) (x : Transition) : Prop where
  /-- The connection is open: the client gets the one message for it. -/
  | posted (payload : Bytes) (hopen : x.before.session.state ≠ .closed)
      (hnumbered : Numbered (x.before.outbox.seq + 1) item.message payload)
      (hposted : x.happenings = [.posted .pump item.message (.ok ()) (Framing.frame payload)])
  /-- The session has closed the connection. -/
  | lost (hclosed : x.before.session.state = .closed)
      (hposted : x.happenings = [.posted .pump item.message (.error (.io .brokenPipe)) []])
  /-- A stop is not announced any more when the context is done. -/
  | skipped (hstop : item.stop?.isSome) (hcancelled : x.before.cancelled = true)
      (hnone : x.happenings = [])

theorem isEvent_message (item : Item) : IsEvent item.message := by
  cases item with
  | terminated => exact isEvent_named (by decide)
  | _ => exact isEvent_ofBody _

/-- A message of the pump gets through as long as the connection is open. -/
theorem Connected.pumpPosts {item : Item} {rest : List PumpTask} (h : Connected start log s)
    (hroom : start.seq + (sent log).length + 1 < 2 ^ 63)
    (hpump : s.pump = .send item.message :: rest) (hopen : s.session.state ≠ .closed) :
    ∃ payload, Numbered (s.outbox.seq + 1) item.message payload ∧
      s.pumpHappenings = [.posted .pump item.message (.ok ()) (Framing.frame payload)] := by
  obtain ⟨e, -, hsendable⟩ := isEvent_message item
  obtain ⟨-, haccepts⟩ := h.connection.resolve_left fun hclosed => hopen hclosed.1
  obtain ⟨payload, o', hpost, hdelivered⟩ :=
    Outbox.post_of_accepts hsendable haccepts (h.room hroom)
  refine ⟨payload, hdelivered.numbered, ?_⟩
  rw [System.pumpHappenings, hpump]
  dsimp only
  rw [hpost, System.posting, hdelivered.bytes_eq, List.drop_left]

/-- After that it is lost. -/
theorem Connected.pumpLoses {item : Item} {rest : List PumpTask} (h : Connected start log s)
    (hroom : start.seq + (sent log).length + 1 < 2 ^ 63)
    (hpump : s.pump = .send item.message :: rest) (hclosed : s.session.state = .closed) :
    s.pumpHappenings = [.posted .pump item.message (.error (.io .brokenPipe)) []] := by
  obtain ⟨e, -, hsendable⟩ := isEvent_message item
  obtain ⟨-, -, hdetached⟩ := h.connection.resolve_right fun hopen => hopen.1 hclosed
  obtain ⟨o', hpost, hsink, -⟩ :=
    Outbox.post_of_detached hsendable hdetached (h.room hroom)
  rw [System.pumpHappenings, hpump]
  dsimp only
  rw [hpost, System.posting, hsink, List.drop_length]

theorem Settles.of_send {item : Item} {rest : List PumpTask} (h : Connected start log s)
    (hroom : start.seq + (sent log).length + 1 < 2 ^ 63)
    (hpump : s.pump = .send item.message :: rest) : Settles item ⟨s, .step .pump, t⟩ := by
  by_cases hclosed : s.session.state = .closed
  · exact .lost hclosed (h.pumpLoses hroom hpump hclosed)
  · obtain ⟨payload, hnumbered, hposted⟩ := h.pumpPosts hroom hpump hclosed
    exact .posted payload hclosed hnumbered hposted

/-- The pump is done with the items that it took, up to the one that it still works on. -/
def Relaying (run : List Transition) (s : System) : Prop :=
  ∃ done pending, takens (logOf run) = done ++ pending.toList ∧
    List.Forall₂ Settles done (run.filter Transition.settles) ∧ Underway pending s.pump

/-- A transition in which the pump takes no item and is done with none. -/
theorem Relaying.keep {run : List Transition} {x : Transition} {pending : Option Item}
    {done : List Item} (htakens : takens (logOf run) = done ++ pending.toList)
    (hdone : List.Forall₂ Settles done (run.filter Transition.settles))
    (htaken : takens x.happenings = []) (hsettles : x.settles = false)
    (hpump : Underway pending s.pump) : Relaying (run ++ [x]) s := by
  refine ⟨done, pending, ?_, ?_, hpump⟩
  · rw [logOf_append, logOf_singleton, takens_append, htaken, List.append_nil, htakens]
  · rw [List.filter_append, List.filter_cons_of_neg (by simp [hsettles]), List.filter_nil,
      List.append_nil]
    exact hdone

/-- A transition in which the pump is done with the item that it works on. -/
theorem Relaying.settle {run : List Transition} {x : Transition} {item : Item} {done : List Item}
    (htakens : takens (logOf run) = done ++ [item])
    (hdone : List.Forall₂ Settles done (run.filter Transition.settles))
    (htaken : takens x.happenings = []) (hsettles : x.settles = true) (hitem : Settles item x)
    (hpump : Underway none s.pump) : Relaying (run ++ [x]) s := by
  refine ⟨done ++ [item], none, ?_, ?_, hpump⟩
  · rw [logOf_append, logOf_singleton, takens_append, htaken, htakens]
    rfl
  · rw [List.filter_append, List.filter_cons_of_pos hsettles]
    exact List.rel_append hdone (.cons hitem .nil)

theorem Relaying.pump {run : List Transition} (h : Relaying run s)
    (hconnected : Connected start (logOf run) s)
    (hroom : start.seq + (sent (logOf run)).length + 1 < 2 ^ 63) (hstep : s.pump? = some t) :
    Relaying (run ++ [⟨s, .step .pump, t⟩]) t := by
  obtain ⟨done, pending, htakens, hdone, hunderway⟩ := h
  cases System.pumpStep hstep with
  | @takes item items hpump hitems hmore =>
    have hnone : pending = none := by
      rw [hpump] at hunderway
      cases hunderway
      rfl
    refine ⟨done, some item, ?_, ?_, underway_planItem item⟩
    · rw [logOf_append, logOf_singleton, takens_append, htakens, Transition.happenings,
        System.happenings, hmore, hnone, Option.toList_none, List.append_nil]
      rfl
    · rw [List.filter_append, List.filter_cons_of_neg (by simp [Transition.settles, hpump])]
      exact (List.append_nil _).symm ▸ hdone
  | @performs task rest hpump =>
    rw [hpump] at hunderway
    cases hunderway with
    | posts item =>
      refine .settle htakens hdone ?_ ?_ (.of_send hconnected hroom hpump) .idle
      · rw [Transition.happenings, System.happenings, System.pumpHappenings, hpump]
        rfl
      · simp [Transition.settles, hpump]
    | decides report c =>
      have hhappens : s.pumpHappenings = [] := by rw [System.pumpHappenings, hpump]
      by_cases hcancelled : s.cancelled = true
      · refine .settle htakens hdone ?_ ?_ (.skipped rfl hcancelled hhappens) ?_
        · exact congrArg takens hhappens
        · simp [Transition.settles, hpump, hcancelled]
        · rw [System.pumpPerform, if_pos hcancelled]
          exact .prepares id (.prepares id (.prepares id .idle))
      · refine .keep htakens hdone (congrArg takens hhappens) ?_ ?_
        · simp [Transition.settles, hpump, hcancelled]
        · rw [System.pumpPerform, if_neg hcancelled]
          exact .posts (.stopped report c)
    | prepares htask hrest =>
      refine .keep htakens hdone ?_ ?_ (underway_pumpPerform htask hrest)
      · rw [Transition.happenings, System.happenings, System.pumpHappenings, hpump]
        cases task <;> rfl
      · have hnot : Transition.settles ⟨s, .step .pump, s.pumpPerform rest task⟩ = false := by
          rw [Transition.settles]
          dsimp only
          rw [hpump]
          cases task with
          | send | announce => exact absurd trivial htask
          | _ => exact Bool.and_false _
        exact hnot

theorem Relaying.move {run : List Transition} {move : Move} (h : Relaying run s)
    (hconnected : Connected start (logOf run) s)
    (hroom : start.seq + (sent (logOf run)).length + 1 < 2 ^ 63) (hmove : s.move? move = some t) :
    Relaying (run ++ [⟨s, move, t⟩]) t := by
  by_cases hpump : move = .step .pump
  · subst hpump
    exact h.pump hconnected hroom hmove
  obtain ⟨done, pending, htakens, hdone, hunderway⟩ := h
  have hsettles : Transition.settles ⟨s, move, t⟩ = false := by simp [Transition.settles, hpump]
  obtain ⟨hsame, htaken⟩ := pump_of_move hmove hpump
  exact .keep htakens hdone htaken hsettles (hsame ▸ hunderway)

end Step

/-! ## Runs -/

/-- The connection works until the session closes it, and there are numbers left. -/
structure Reliable (start : Outbox) (log : List Happening) : Prop where
  accepts : start.sink.Accepts
  room : start.seq + (sent log).length + 1 < 2 ^ 63

theorem Reliable.of_append {start : Outbox} {log more : List Happening}
    (h : Reliable start (log ++ more)) : Reliable start log where
  accepts := h.accepts
  room := by
    have hroom := h.room
    rw [sent_append, List.length_append] at hroom
    omega

theorem connected_play (script : Script) (decoder : Framing.Decoder) {outbox : Outbox}
    (moves : List Move)
    (hreliable : Reliable outbox (System.play moves (.starting script decoder outbox)).1) :
    Connected outbox (System.play moves (.starting script decoder outbox)).1
      (System.play moves (.starting script decoder outbox)).2 := by
  refine System.play_induction (P := fun log t => Reliable outbox log → Connected outbox log t) ?_
    (fun _ _ _ _ h hmove hmore => (h hmore.of_append).move hmore.of_append.room hmove) moves
    hreliable
  exact fun h => ⟨.inr ⟨State.noConfusion, h.accepts⟩, .nil outbox⟩

theorem relaying_play (script : Script) (decoder : Framing.Decoder) {outbox : Outbox}
    (moves : List Move)
    (hreliable : Reliable outbox (System.play moves (.starting script decoder outbox)).1) :
    Relaying (System.transitions moves (.starting script decoder outbox))
      (System.play moves (.starting script decoder outbox)).2 := by
  rw [System.log_eq] at hreliable
  refine (System.transitions_induction (P := fun run t => Reliable outbox (logOf run) →
    Connected outbox (logOf run) t ∧ Relaying run t) ?_ ?_ moves hreliable).2
  · intro h
    exact ⟨⟨.inr ⟨State.noConfusion, h.accepts⟩, .nil outbox⟩, [], none, rfl, .nil, .idle⟩
  · intro run t move u h hmove hmore
    rw [logOf_append, logOf_singleton] at hmore ⊢
    have hroom := hmore.of_append.room
    obtain ⟨hconnected, hrelaying⟩ := h hmore.of_append
    exact ⟨hconnected.move hroom hmove, hrelaying.move hconnected hroom hmove⟩

theorem script_play (script : Script) (decoder : Framing.Decoder) (outbox : Outbox)
    (moves : List Move) : (System.play moves (.starting script decoder outbox)).2.script = script := by
  refine System.play_induction (P := fun _ t => t.script = script) rfl ?_ moves
  intro _ t move u h hmove
  cases System.moved hmove with
  | session hstep => exact (System.keptBySession hstep).script_eq.trans h
  | pump hstep => exact (System.keptByPump hstep).script_eq.trans h
  | engine hkept => exact hkept.script_eq.trans h
  | client => exact h

end DebugAdapter.Evaluation
