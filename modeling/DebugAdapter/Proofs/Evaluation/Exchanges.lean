import DebugAdapter.Proofs.Evaluation.Exchanges.Stopping

/-! # Stopped threads behind handles

Stops, requests about them and purges, one after the other. The tables with their handles, which
are filled and purged one by one, answer as if they only knew which threads are stopped and what
the latest stop was. -/

namespace DebugAdapter.Evaluation

open Debuggee Protocol Session

theorem exchange_step {s : System} {m : StopModel} (h : Refines s.registries m) (op : Operation) :
    ∃ t, Exchange s op (m.step op).1 t ∧ Refines t.registries (m.step op).2 := by
  cases op with
  | stop report resume => exact record_stop h report resume
  | purge => exact purge_all s
  | ask seq q =>
    obtain ⟨t, hask, hafter⟩ := exchange_ask s seq q
    refine ⟨t, ?_, hafter ▸ h.after seq q⟩
    rw [m.step_ask, ← h.replyFrom_eq]
    exact hask

theorem exchanges_run {s : System} {m : StopModel} (h : Refines s.registries m)
    (ops : List Operation) :
    ∃ t, Exchanges s ops (StopModel.run ops m).1 t ∧
      Refines t.registries (StopModel.run ops m).2 := by
  induction ops generalizing s m with
  | nil => exact ⟨s, .nil, h⟩
  | cons op ops ih =>
    obtain ⟨t, hop, ht⟩ := exchange_step h op
    obtain ⟨u, hops, hu⟩ := ih ht
    exact ⟨u, .cons hop hops, hu⟩

/-- What a client may be told that asks something, whatever it looked at before. -/
def Learns (s : System) (q : Inquiry) (answer : Answer) : Prop :=
  ∃ looks answers t seq u, (∀ op ∈ looks, op.IsLook) ∧ Exchanges s looks answers t ∧
    Exchange t (.ask seq q) answer u

theorem Exchange.of_ask {s t : System} {seq : Int64} {q : Inquiry} {answer : Answer}
    (h : Exchange s (.ask seq q) answer t) :
    answer = replyFrom s.registries q ∧ t.registries = tablesAfter s.registries q := by
  obtain ⟨t', hask, hafter⟩ := exchange_ask s seq q
  obtain ⟨rfl, rfl⟩ := h.unique hask
  exact ⟨rfl, hafter⟩

theorem Exchanges.registries_eq_of_looks {s t : System} {looks : List Operation}
    {answers : List Answer} (h : Exchanges s looks answers t) (hlooks : ∀ op ∈ looks, op.IsLook) :
    t.registries = s.registries := by
  induction h with
  | nil => rfl
  | @cons s t u op ops _ _ hop _ ih =>
    have hrest := ih fun op hmem => hlooks op (List.mem_cons_of_mem _ hmem)
    have hlook : op.IsLook := hlooks op List.mem_cons_self
    have hkept : t.registries = s.registries := by
      cases op with
      | stop | purge => exact hlook.elim
      | ask seq q =>
        have hafter := hop.of_ask.2
        cases q with
        | proceed => exact hlook.elim
        | stackTrace | scopes | members => exact hafter
    exact hrest.trans hkept

/-- What a client may be told is what the tables say. -/
theorem learns_iff {s : System} {q : Inquiry} {answer : Answer} :
    Learns s q answer ↔ answer = replyFrom s.registries q := by
  constructor
  · rintro ⟨looks, answers, t, seq, u, hlooks, hbefore, hask⟩
    rw [← hbefore.registries_eq_of_looks hlooks]
    exact hask.of_ask.1
  · rintro rfl
    obtain ⟨t, hask, -⟩ := exchange_ask s 0 q
    exact ⟨[], [], s, 0, t, fun _ hmem => absurd hmem List.not_mem_nil, .nil, hask⟩

theorem answer_of_learns {s : System} {m : StopModel} (h : Refines s.registries m) {q : Inquiry}
    {answer : Answer} (hlearns : Learns s q answer) : answer = m.answer q :=
  (learns_iff.mp hlearns).trans (h.replyFrom_eq q)

/-- From empty tables, stops, requests and purges one after the other have the answers of the model
and no others. As long as a stop is shown, a client that asks for everything learns its frames,
scopes and variables. -/
theorem exchanges_eq_run {s : System} (hfresh : s.registries = {}) (ops : List Operation) :
    ∃ t, Exchanges s ops (StopModel.run ops {}).1 t ∧
      (∀ answers u, Exchanges s ops answers u → answers = (StopModel.run ops {}).1 ∧ u = t) ∧
      ∀ stop ∈ (StopModel.run ops {}).2.current, stop.Fits →
        ∀ ask : Inquiry → Answer, (∀ q, Learns t q (ask q)) →
          rebuildFrames ask stop.thread = some stop.frames := by
  have hrefines : Refines s.registries {} := hfresh ▸ Refines.empty
  obtain ⟨t, hops, ht⟩ := exchanges_run hrefines ops
  refine ⟨t, hops, fun answers u hother => hother.unique hops, ?_⟩
  intro stop hstop hfits ask hask
  have hstopped := StopModel.ShowsStopped.fresh.run ops stop hstop
  exact rebuildFrames_eq (fun q => answer_of_learns ht (hask q)) hstop hstopped hfits

/-- A system before anything happened. -/
def untouched : System :=
  .starting (.finish (.success 0)) { source := { feed := { rest := [], pace := id } } } {}

/-- A thread stopped two calls deep. -/
def breakpoint : DebugStop where
  thread := 7
  reason := "breakpoint"
  frames := [
    { name := "inner", path := some "/src/a.rb", line := 3, column := 1
      scopes := [{ name := "Locals", members := [⟨"x", "1", some "Integer"⟩] }] },
    { name := "outer", line := 9, column := 5, scopes := [⟨"Locals", []⟩, ⟨"Globals", []⟩] }]

/-- The thread stops, goes on and stops again. -/
def stopAgain : List Operation := [
  .stop breakpoint 0,
  .ask 4 (.proceed { threadId := 7 }),
  .ask 5 (.scopes { frameId := 1 }),
  .stop breakpoint 1,
  .ask 6 (.scopes { frameId := 2 })]

theorem exchanges_eq_run_stopAgain :
    untouched.registries = {} ∧
      ∃ t, Exchanges untouched stopAgain
          [.announced breakpoint.body,
            .replied (some (.resumed { allThreadsContinued := some false })),
            .refused "Invalid frame id 1",
            .announced breakpoint.body,
            .replied (some (.scopes { scopes := [
              { name := "Locals", variablesReference := 2, expensive := false },
              { name := "Globals", variablesReference := 3, expensive := false }] }))] t ∧
        ∀ ask : Inquiry → Answer, (∀ q, Learns t q (ask q)) →
          rebuildFrames ask 7 = some breakpoint.frames := by
  obtain ⟨t, hops, -, hrebuild⟩ := exchanges_eq_run (s := untouched) rfl stopAgain
  exact ⟨rfl, t, hops, hrebuild breakpoint rfl ⟨by decide, by decide⟩⟩

end DebugAdapter.Evaluation
