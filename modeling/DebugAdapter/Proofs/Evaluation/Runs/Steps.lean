import DebugAdapter.Proofs.Evaluation.Runs.Hearing

/-! # What each thread leaves alone

The session, the pump and the threads of the engine step over one system. Each of them has its own
part of it and leaves the parts of the others alone. -/

namespace DebugAdapter.Evaluation

open Debuggee Protocol Session

namespace System

variable {s t : System}

/-- The session does not touch what belongs to the engine and the pump. -/
structure KeptBySession (s t : System) : Prop where
  script_eq : t.script = s.script
  queue_eq : t.queue = s.queue
  channels_eq : t.channels = s.channels
  pump_eq : t.pump = s.pump
  aside_eq : t.aside = s.aside

namespace KeptBySession

theorem sent (s : System) (work : List Task) (outcome : Except Error Unit × Outbox) :
    KeptBySession s (s.sent work outcome) := by
  obtain ⟨_ | _, _⟩ := outcome <;> exact ⟨rfl, rfl, rfl, rfl, rfl⟩

theorem heard {log : List Happening} (h : Heard s log t) : KeptBySession s t := by
  cases h <;> exact ⟨rfl, rfl, rfl, rfl, rfl⟩

theorem close (s : System) : KeptBySession s s.close := by
  obtain ⟨decoder, problems, h⟩ := s.close_eq
  rw [h]
  exact ⟨rfl, rfl, rfl, rfl, rfl⟩

theorem perform (s : System) (rest : List Task) (task : Task) :
    KeptBySession s (s.perform rest task) := by
  cases task with
  | send | fail => exact sent s _ _
  | start | findStop | findFrames | release | decide =>
    unfold System.perform
    dsimp only
    split <;> exact ⟨rfl, rfl, rfl, rfl, rfl⟩
  | cancel | findScopes | findVariables | purgeEvents | purgeFrames | purgeVariables | resume =>
    exact ⟨rfl, rfl, rfl, rfl, rfl⟩
  | farewell =>
    unfold System.perform
    rcases s.outbox.event "terminated" none with ⟨_ | _, _⟩ <;> exact ⟨rfl, rfl, rfl, rfl, rfl⟩
  | close => exact close s

end KeptBySession

/-- A step of the session, and what happens in it: it performs its next task, or it hears from the
client. -/
inductive SessionStep (s : System) : List Happening → System → Prop where
  | performs {task rest} (hwork : s.session.work = task :: rest) :
      SessionStep s (s.performing task) (s.perform rest task)
  | hears {next} (hwork : s.session.work = []) (hopen : s.session.state ≠ .closed)
      (hreceive : s.receive? = some next) : SessionStep s s.hearing next

theorem sessionStep (h : s.session? = some t) : SessionStep s s.sessionHappenings t := by
  cases hwork : s.session.work with
  | cons task rest =>
    rw [session?, hwork] at h
    obtain rfl := Option.some.inj h
    rw [sessionHappenings, hwork]
    exact .performs hwork
  | nil =>
    rw [session?, hwork] at h
    rw [sessionHappenings, hwork]
    dsimp only at h
    split at h
    · exact nomatch h
    · exact .hears hwork ‹_› h

theorem keptBySession (h : s.session? = some t) : KeptBySession s t := by
  have hstep := sessionStep h
  generalize s.sessionHappenings = more at hstep
  cases hstep with
  | performs => exact .perform s _ _
  | hears _ _ hreceive => exact .heard (heard hreceive)

/-- A step of the pump: it performs its next task, or it takes the next item. -/
inductive PumpStep (s : System) : System → Prop where
  | performs {task rest} (hpump : s.pump = task :: rest) : PumpStep s (s.pumpPerform rest task)
  | takes {item items} (hpump : s.pump = []) (hitems : s.queue.items = item :: items)
      (hmore : s.pumpHappenings = [.taken item]) :
      PumpStep s { s with queue := { s.queue with items }, pump := planItem item }

theorem pumpStep (h : s.pump? = some t) : PumpStep s t := by
  unfold pump? Queue.pop at h
  cases hpump : s.pump with
  | cons task rest =>
    rw [hpump] at h
    obtain rfl := Option.some.inj h
    exact .performs hpump
  | nil =>
    rw [hpump] at h
    cases hitems : s.queue.items with
    | nil =>
      rw [hitems] at h
      exact nomatch h
    | cons item items =>
      rw [hitems] at h
      obtain rfl := Option.some.inj h
      refine .takes hpump hitems ?_
      rw [pumpHappenings, hpump, hitems]
      rfl

/-- The pump does not touch what belongs to the engine and the session. -/
structure KeptByPump (s t : System) : Prop where
  script_eq : t.script = s.script
  channels_eq : t.channels = s.channels
  signals_eq : t.signals = s.signals
  session_eq : t.session = s.session
  engine_eq : t.engine = s.engine
  aside_eq : t.aside = s.aside

theorem keptByPump (h : s.pump? = some t) : KeptByPump s t := by
  cases pumpStep h with
  | takes => exact ⟨rfl, rfl, rfl, rfl, rfl, rfl⟩
  | @performs task rest =>
    cases task with
    | record report resume ids scopes frames =>
      cases frames with
      | nil => exact ⟨rfl, rfl, rfl, rfl, rfl, rfl⟩
      | cons frame frames =>
        unfold pumpPerform
        dsimp only
        split <;> exact ⟨rfl, rfl, rfl, rfl, rfl, rfl⟩
    | _ => exact ⟨rfl, rfl, rfl, rfl, rfl, rfl⟩

/-- A step of the thread on which the program is evaluated, and what happens in it. -/
inductive EngineStep (s : System) : List Happening → System → Prop where
  | finishes {outcome} (hengine : s.engine = .running (.finish outcome)) :
      EngineStep s [] { s with engine := .finishing outcome.items }
  | writesNothing {category next} (hengine : s.engine = .running (.write category [] next)) :
      EngineStep s [] { s with engine := .running next }
  | writes {category byte bytes next}
      (hengine : s.engine = .running (.write category (byte :: bytes) next)) :
      EngineStep s (s.enqueuing (.output category (Utf8.decodeLossy (byte :: bytes))))
        { s with
          queue := (s.queue.push (.output category (Utf8.decodeLossy (byte :: bytes)))).2
          engine := .running next }
  | stops {report resumed refused} (hengine : s.engine = .running (.stop report resumed refused)) :
      EngineStep s (s.enqueuing (.stopped report s.channels))
        { s.report report with engine := .waiting s.channels resumed refused }
  | stopsAside {report next} (hengine : s.engine = .running (.stopAside report next)) :
      EngineStep s (s.enqueuing (.stopped report s.channels))
        { s.report report with engine := .running next, aside := s.aside ++ [s.channels] }
  | seesEnd {next} (hengine : s.engine = .running (.awaitEnd next)) (hcancelled : s.cancelled = true) :
      EngineStep s [] { s with engine := .running next }
  | returns {c resumed refused goesOn} (hengine : s.engine = .waiting c resumed refused)
      (hverdict : s.verdict? c = some goesOn) :
      EngineStep s [.returned c goesOn]
        { s.answer c goesOn with engine := .running (if goesOn then resumed else refused) }
  | offers {item items lost} (hengine : s.engine = .finishing (item :: items))
      (hlost : lost = true ↔ item = .terminated ∧ s.queue.received = false) :
      EngineStep s (s.enqueuing item)
        { s with
          queue := (s.queue.push item).2
          engine := .finishing items
          cancelled := s.cancelled || lost }
  | ends (hengine : s.engine = .finishing []) : EngineStep s [] { s with engine := .ended }

theorem queue_write_cons (q : Queue) (category : OutputCategory) (byte : UInt8) (bytes : Bytes) :
    (q.write category (byte :: bytes)).2 =
      (q.push (.output category (Utf8.decodeLossy (byte :: bytes)))).2 := by
  rw [Queue.write, if_neg (Bool.not_eq_true _ ▸ rfl)]
  split <;> rename_i heq <;> rw [heq]

theorem engineStep_running {script : Script} (hengine : s.engine = .running script)
    (h : s.engine? = some t) : EngineStep s s.engineHappenings t := by
  rw [engine?, hengine] at h
  rw [engineHappenings, hengine]
  cases script with
  | finish =>
    obtain rfl := Option.some.inj h
    exact .finishes hengine
  | write category bytes next =>
    dsimp only at h
    obtain rfl := Option.some.inj h
    cases bytes with
    | nil => exact .writesNothing hengine
    | cons byte bytes =>
      rw [queue_write_cons]
      exact .writes hengine
  | stop =>
    obtain rfl := Option.some.inj h
    exact .stops hengine
  | stopAside =>
    obtain rfl := Option.some.inj h
    exact .stopsAside hengine
  | awaitEnd =>
    dsimp only at h
    split at h
    · obtain rfl := Option.some.inj h
      exact .seesEnd hengine ‹_›
    · exact nomatch h

theorem engineStep (h : s.engine? = some t) : EngineStep s s.engineHappenings t := by
  cases hengine : s.engine with
  | running => exact engineStep_running hengine h
  | idle | ended =>
    rw [engine?, hengine] at h
    exact nomatch h
  | waiting c resumed refused =>
    rw [engine?, hengine] at h
    obtain ⟨goesOn, hverdict, rfl⟩ := Option.map_eq_some_iff.mp h
    rw [engineHappenings, hengine]
    dsimp only
    rw [returning, hverdict]
    exact .returns hengine hverdict
  | finishing items =>
    rw [engine?, hengine] at h
    rw [engineHappenings, hengine]
    cases items with
    | nil =>
      obtain rfl := Option.some.inj h
      exact .ends hengine
    | cons item items =>
      dsimp only at h
      obtain rfl := Option.some.inj h
      refine .offers hengine ?_
      unfold Queue.push
      cases s.queue.received <;> cases item <;> simp

/-- The engine does not touch what belongs to the session and the pump. -/
structure KeptByEngine (s t : System) : Prop where
  script_eq : t.script = s.script
  outbox_eq : t.outbox = s.outbox
  registries_eq : t.registries = s.registries
  signals_eq : t.signals = s.signals
  session_eq : t.session = s.session
  pump_eq : t.pump = s.pump

theorem EngineStep.kept {more : List Happening} (h : EngineStep s more t) : KeptByEngine s t := by
  cases h <;> exact ⟨rfl, rfl, rfl, rfl, rfl, rfl⟩

theorem keptByEngine (h : s.engine? = some t) : KeptByEngine s t := (engineStep h).kept

theorem EngineStep.ne_idle {more : List Happening} (h : EngineStep s more t) : s.engine ≠ .idle := by
  intro hidle
  cases h with
  | finishes hengine | writesNothing hengine | writes hengine | stops hengine | stopsAside hengine
  | seesEnd hengine | returns hengine | offers hengine | ends hengine =>
    exact nomatch hidle.symm.trans hengine

/-- A further thread of the engine makes no step but the one with which its wait ends. -/
theorem aside_eq {c : Channel} (h : s.aside? c = some t) :
    c ∈ s.aside ∧ ∃ goesOn, s.verdict? c = some goesOn ∧
      t = { s.answer c goesOn with aside := s.aside.erase c } := by
  unfold aside? at h
  split at h
  · rename_i hmem
    obtain ⟨goesOn, hverdict, hnext⟩ := Option.map_eq_some_iff.mp h
    exact ⟨hmem, goesOn, hverdict, hnext.symm⟩
  · exact nomatch h

theorem keptByAside {c : Channel} (h : s.aside? c = some t) : KeptByEngine s t := by
  obtain ⟨-, goesOn, -, rfl⟩ := aside_eq h
  exact ⟨rfl, rfl, rfl, rfl, rfl, rfl⟩

/-- A thread beside the evaluation only reports, and only once there is an engine. -/
theorem reportAside_eq {stop : DebugStop} (h : s.reportAside? stop = some t) :
    s.engine ≠ .idle ∧ t = { s.report stop with aside := s.aside ++ [s.channels] } := by
  unfold reportAside? at h
  split at h
  · exact nomatch h
  · exact ⟨‹_›, (Option.some.inj h).symm⟩

theorem keptByReport {stop : DebugStop} (h : s.reportAside? stop = some t) : KeptByEngine s t := by
  obtain ⟨-, rfl⟩ := reportAside_eq h
  exact ⟨rfl, rfl, rfl, rfl, rfl, rfl⟩

end System

end DebugAdapter.Evaluation
