import DebugAdapter.Proofs.Evaluation.Runs

/-! # Passing on

The pump takes the items out of the queue in the order in which they were put in, and whatever it
posts is made from the item that it took last. -/

namespace DebugAdapter.Evaluation

open Debuggee Protocol Session

/-! ## The way through the queue -/

def Happening.enqueued? : Happening → Option Item
  | .enqueued item => some item
  | .reported stop c => some (.stopped stop c)
  | _ => none

def Happening.taken? : Happening → Option Item
  | .taken item => some item
  | _ => none

/-- The items that were put into the queue. -/
def enqueueds (log : List Happening) : List Item := log.filterMap Happening.enqueued?

/-- The items that the pump took. -/
def takens (log : List Happening) : List Item := log.filterMap Happening.taken?

theorem enqueueds_append (log more : List Happening) :
    enqueueds (log ++ more) = enqueueds log ++ enqueueds more := List.filterMap_append

theorem takens_append (log more : List Happening) :
    takens (log ++ more) = takens log ++ takens more := List.filterMap_append

theorem takens_eq_nil {actor : Actor} {log : List Happening} (h : ∀ x ∈ log, x.IsBy actor)
    (hactor : actor ≠ .pump) : takens log = [] := by
  refine List.filterMap_eq_nil_iff.mpr fun x hx => ?_
  cases x with
  | taken => exact absurd (h _ hx) hactor
  | _ => rfl

theorem enqueueds_eq_nil {actor : Actor} {log : List Happening} (h : ∀ x ∈ log, x.IsBy actor)
    (hactor : actor = .session ∨ actor = .pump) : enqueueds log = [] := by
  refine List.filterMap_eq_nil_iff.mpr fun x hx => ?_
  cases x with
  | enqueued | reported =>
    obtain ⟨hsession, hpump⟩ := h _ hx
    rcases hactor with hactor | hactor
    · exact absurd hactor hsession
    · exact absurd hactor hpump
  | _ => rfl

/-- A list with a marked element is made longer. -/
theorem append_eq_split {α : Type} {log more front back : List α} {x : α}
    (h : log ++ more = front ++ x :: back) :
    (∃ rest, back = rest ++ more ∧ log = front ++ x :: rest) ∨
      ∃ rest, front = log ++ rest ∧ more = rest ++ x :: back := by
  rcases List.append_eq_append_iff.mp h with ⟨rest, hfront, hmore⟩ | ⟨rest, hlog, hback⟩
  · exact .inr ⟨rest, hfront, hmore⟩
  · cases rest with
    | nil => exact .inr ⟨[], by rw [hlog, List.append_nil, List.append_nil], hback.symm⟩
    | cons y rest =>
      obtain ⟨rfl, rfl⟩ := List.cons.inj hback
      exact .inl ⟨rest, rfl, hlog⟩

section Queue

variable {s t : System}

/-- What a move does to the queue: items leave it at one end and enter it at the other. -/
structure Flows (s t : System) (more : List Happening) : Prop where
  conserved : s.queue.items ++ enqueueds more = takens more ++ t.queue.items
  waited : takens more <+: s.queue.items

theorem Flows.of_still {more : List Happening} (henqueueds : enqueueds more = [])
    (htakens : takens more = []) (hqueue : t.queue = s.queue) : Flows s t more where
  conserved := by rw [henqueueds, htakens, hqueue, List.append_nil, List.nil_append]
  waited := htakens ▸ List.nil_prefix

theorem push_items (s : System) (item : Item) :
    (s.queue.push item).2.items = s.queue.items ++ enqueueds (s.enqueuing item) := by
  unfold Queue.push System.enqueuing
  split
  · rfl
  · exact (List.append_nil _).symm

theorem enqueueds_reporting (s : System) (stop : DebugStop) :
    enqueueds (s.reporting stop) = enqueueds (s.enqueuing (.stopped stop s.channels)) := by
  unfold System.reporting System.enqueuing
  split <;> rfl

/-- The threads of the engine take nothing out of the queue. -/
theorem takens_of_engine {log : List Happening} (h : ∀ x ∈ log, x.IsOfEngine) : takens log = [] :=
  takens_eq_nil (isBy_engine h) Actor.noConfusion

/-- Nothing is taken while an item is put into the queue. -/
theorem Flows.of_push {more : List Happening} (item : Item) (hmore : ∀ x ∈ more, x.IsOfEngine)
    (henqueueds : enqueueds more = enqueueds (s.enqueuing item))
    (hqueue : t.queue = (s.queue.push item).2) : Flows s t more := by
  refine ⟨?_, takens_of_engine hmore ▸ List.nil_prefix⟩
  rw [takens_of_engine hmore, henqueueds, hqueue, push_items, List.nil_append]

theorem flows_engine (h : s.engine? = some t) : Flows s t s.engineHappenings := by
  have hstep := System.engineStep h
  generalize s.engineHappenings = more at hstep
  cases hstep with
  | writes | stops | stopsAside | offers =>
    exact .of_push _ (System.enqueuing_isOfEngine s _) rfl rfl
  | finishes | writesNothing | seesEnd | returns | ends => exact .of_still rfl rfl rfl

theorem queue_pumpPerform (s : System) (rest : List PumpTask) (task : PumpTask) :
    (s.pumpPerform rest task).queue = s.queue := by
  cases task with
  | record report resume ids scopes frames =>
    cases frames with
    | nil => rfl
    | cons frame frames =>
      unfold System.pumpPerform
      dsimp only
      split <;> rfl
  | _ => rfl

theorem flows_pump (h : s.pump? = some t) : Flows s t s.pumpHappenings := by
  have henqueueds := enqueueds_eq_nil (System.pumpHappenings_isBy s) (.inr rfl)
  cases System.pumpStep h with
  | @performs task rest hpump =>
    refine .of_still henqueueds ?_ (queue_pumpPerform s rest task)
    rw [System.pumpHappenings, hpump]
    cases task <;> rfl
  | @takes item items _ hitems hmore =>
    rw [hmore]
    exact ⟨by rw [hitems]; exact List.append_nil _, ⟨items, hitems.symm⟩⟩

theorem received_pump (h : s.pump? = some t) : t.queue.received = s.queue.received := by
  cases System.pumpStep h with
  | performs => rw [queue_pumpPerform]
  | takes => rfl

theorem flows_move {move : Move} (h : s.move? move = some t) :
    Flows s t (s.happenings move) := by
  match move with
  | .step .session =>
    have hby := System.happenings_isBy s .session
    exact .of_still (enqueueds_eq_nil hby (.inl rfl)) (takens_eq_nil hby Actor.noConfusion)
      (System.keptBySession h).queue_eq
  | .step .pump => exact flows_pump h
  | .step .engine => exact flows_engine h
  | .step (.aside c) =>
    obtain ⟨-, goesOn, hverdict, rfl⟩ := System.aside_eq h
    rw [System.happenings, System.returning, hverdict]
    exact .of_still rfl rfl rfl
  | .report stop =>
    obtain ⟨-, rfl⟩ := System.reportAside_eq h
    exact .of_push _ (System.reporting_isOfEngine s stop) (enqueueds_reporting s stop) rfl
  | .deliver _ | .hangUp =>
    obtain rfl := Option.some.inj h
    exact .of_still rfl rfl rfl

end Queue

/-! ## What is made from the items -/

/-- The message that is made from an item. -/
def Item.message : Item → Message
  | .output category text =>
    .event (.ofBody (.output { category := some category, output := text }))
  | .stopped report _ => .event (.ofBody (.stopped report.body))
  | .exited code => .event (.ofBody (.exited { exitCode := code.toInt64 }))
  | .terminated => .event { event := "terminated" }

/-- Whatever comes of the task is made from the item. -/
def PumpTask.Serves (item : Item) : PumpTask → Prop
  | .send m => m = item.message
  | .announce report => item.message = .event (.ofBody (.stopped report.body))
  | _ => True

theorem serves_planItem (item : Item) : ∀ task ∈ planItem item, task.Serves item := by
  cases item <;> simp [planItem, PumpTask.Serves, Item.message]

theorem serves_pumpPerform {item : Item} {task : PumpTask} {rest : List PumpTask} (s : System)
    (htask : task.Serves item) (hrest : ∀ task ∈ rest, task.Serves item) :
    ∀ next ∈ (s.pumpPerform rest task).pump, next.Serves item := by
  cases task with
  | send | cancel | purgeEvents | purgeFrames | purgeVariables | retain => exact hrest
  | listStopped =>
    intro next hmem
    rcases List.mem_append.mp hmem with hmem | hmem
    · obtain ⟨thread, -, rfl⟩ := List.mem_map.mp hmem
      trivial
    · exact hrest next hmem
  | findStop thread =>
    rw [System.pumpPerform]
    dsimp only
    split
    · exact List.forall_mem_cons.mpr ⟨trivial, hrest⟩
    · exact hrest
  | record report resume ids scopes frames =>
    cases frames with
    | nil => exact List.forall_mem_cons.mpr ⟨trivial, hrest⟩
    | cons frame frames =>
      rw [System.pumpPerform]
      dsimp only
      split <;> exact List.forall_mem_cons.mpr ⟨trivial, hrest⟩
  | announce report =>
    rw [System.pumpPerform]
    dsimp only
    split
    · simp only [List.forall_mem_cons]
      exact ⟨trivial, trivial, trivial, hrest⟩
    · exact List.forall_mem_cons.mpr ⟨htask.symm, hrest⟩

/-- The pump posts one message at a time, which is the next of its tasks. -/
theorem pump_of_posted {s : System} {move : Move} {m : Message} {result : Except Error Unit}
    {bytes : Bytes} (h : .posted .pump m result bytes ∈ s.happenings move) :
    ∃ rest, s.pump = .send m :: rest ∧
      s.happenings move = [.posted .pump m result bytes] := by
  cases move with
  | deliver | hangUp => exact absurd h List.not_mem_nil
  | report stop => exact (System.reporting_isOfEngine s stop _ h).elim
  | step actor =>
    obtain rfl : Actor.pump = actor := System.happenings_isBy s actor _ h
    unfold System.happenings System.pumpHappenings at h ⊢
    dsimp only at h ⊢
    split at h
    · rename_i m' rest hpump
      rw [hpump]
      have heq := List.mem_singleton.mp h
      obtain ⟨-, rfl, -, -⟩ := Happening.posted.inj heq
      exact ⟨rest, rfl, congrArg (fun x => [x]) heq.symm⟩
    · exact Happening.noConfusion (List.mem_singleton.mp h)
    · exact absurd h List.not_mem_nil
    · obtain ⟨item, -, heq⟩ := Option.map_eq_some_iff.mp (Option.mem_toList.mp h)
      exact Happening.noConfusion heq

/-! ## Runs -/

/-- What a run has passed on so far. -/
structure Forwards (log : List Happening) (s : System) : Prop where
  /-- What was put into the queue and not taken is still there. -/
  queued : enqueueds log = takens log ++ s.queue.items
  /-- At any time the items taken are those that were put in first. -/
  fifo : ∀ front, front <+: log → takens front <+: enqueueds front
  /-- What the pump posts is made from the item that it took last. -/
  made : ∀ front m result bytes back, log = front ++ .posted .pump m result bytes :: back →
    ∃ item, (takens front).getLast? = some item ∧ m = item.message
  serving : ∀ task ∈ s.pump, ∃ item, (takens log).getLast? = some item ∧ task.Serves item

/-- Only the pump works on items. -/
theorem pump_of_move {s t : System} {move : Move} (hmove : s.move? move = some t)
    (hnot : move ≠ .step .pump) : t.pump = s.pump ∧ takens (s.happenings move) = [] := by
  cases System.moved hmove with
  | session hstep =>
    exact ⟨(System.keptBySession hstep).pump_eq,
      takens_eq_nil (System.happenings_isBy s .session) Actor.noConfusion⟩
  | pump => exact absurd rfl hnot
  | engine hkept hmore => exact ⟨hkept.pump_eq, takens_of_engine hmore⟩
  | client hmore =>
    rw [hmore]
    exact ⟨rfl, rfl⟩

theorem Forwards.pump {log : List Happening} {s t : System} (h : Forwards log s)
    (hstep : s.pump? = some t) :
    ∀ task ∈ t.pump, ∃ item, (takens (log ++ s.pumpHappenings)).getLast? = some item ∧
      task.Serves item := by
  cases System.pumpStep hstep with
  | @performs task rest hpump =>
    have hnone : takens s.pumpHappenings = [] := by
      rw [System.pumpHappenings, hpump]
      cases task <;> rfl
    rw [takens_append, hnone, List.append_nil]
    obtain ⟨item, hlast, htask⟩ := h.serving task (hpump ▸ List.mem_cons_self)
    refine fun next hnext => ⟨item, hlast, serves_pumpPerform s htask ?_ next hnext⟩
    intro other hother
    obtain ⟨item', hlast', hserves⟩ := h.serving other (hpump ▸ List.mem_cons_of_mem _ hother)
    obtain rfl := Option.some.inj (hlast.symm.trans hlast')
    exact hserves
  | @takes item items _ _ hmore =>
    refine fun task htask => ⟨item, ?_, serves_planItem item task htask⟩
    rw [hmore, takens_append]
    exact List.getLast?_concat

theorem forwards_move {log : List Happening} {s t : System} {move : Move} (h : Forwards log s)
    (hmove : s.move? move = some t) : Forwards (log ++ s.happenings move) t := by
  have hflows := flows_move hmove
  refine ⟨?_, ?_, ?_, ?_⟩
  · rw [enqueueds_append, takens_append, h.queued, List.append_assoc, hflows.conserved,
      List.append_assoc]
  · rintro front ⟨back, hfront⟩
    rcases List.append_eq_append_iff.mp hfront with ⟨rest, hlog, -⟩ | ⟨rest, rfl, hmore⟩
    · exact h.fifo front ⟨rest, hlog.symm⟩
    · have hrest : rest <+: s.happenings move := ⟨back, hmore.symm⟩
      rw [takens_append, enqueueds_append, h.queued, List.append_assoc]
      refine (List.prefix_append_right_inj _).mpr ?_
      exact ((hrest.filterMap Happening.taken?).trans hflows.waited).trans (List.prefix_append _ _)
  · intro front m result bytes back hlog
    rcases append_eq_split hlog with ⟨rest, -, hlog⟩ | ⟨rest, rfl, hmore⟩
    · exact h.made front m result bytes rest hlog
    · obtain ⟨tasks, hpump, hone⟩ :=
        pump_of_posted (hmore ▸ List.mem_append_right _ List.mem_cons_self)
      obtain ⟨rfl, -⟩ : rest = [] ∧ _ := by
        rw [hone] at hmore
        cases rest with
        | nil => exact ⟨rfl, trivial⟩
        | cons y rest => simp at hmore
      rw [List.append_nil]
      exact h.serving (.send m) (hpump ▸ List.mem_cons_self)
  · by_cases hpump : move = .step .pump
    · subst hpump
      exact h.pump hmove
    · obtain ⟨hsame, hnone⟩ := pump_of_move hmove hpump
      rw [hsame, takens_append, hnone, List.append_nil]
      exact h.serving

/-- Whatever the threads do in between, the pump passes on what is put into the queue, in order. -/
theorem forwards_play (script : Script) (decoder : Framing.Decoder) (outbox : Outbox)
    (moves : List Move) :
    Forwards (System.play moves (.starting script decoder outbox)).1
      (System.play moves (.starting script decoder outbox)).2 := by
  refine System.play_induction (P := Forwards) ?_ (fun _ _ _ _ h => forwards_move h) moves
  refine ⟨rfl, ?_, ?_, fun _ h => absurd h List.not_mem_nil⟩
  · intro front hfront
    obtain rfl := List.prefix_nil.mp hfront
    exact List.nil_prefix
  · intro front m result bytes back hlog
    simp at hlog

end DebugAdapter.Evaluation
