import DebugAdapter.Settings.FileSettings

/-! # What a file leaves as it is

A key of a file changes one setting and no other. A setting that no key of a file is about is what
it is without a file. -/

namespace DebugAdapter.Settings

open Toml (Value)

/-- What each step keeps is kept by a fold that gets to its end. -/
theorem foldlM_induction {σ ε : Type} {P : σ → Prop} {step : σ → ε → Option σ} {entries : List ε}
    (hstep : ∀ entry ∈ entries, ∀ s t, P s → step s entry = some t → P t) {s t : σ} (hs : P s)
    (h : entries.foldlM step s = some t) : P t := by
  induction entries generalizing s with
  | nil => exact Option.some.inj h ▸ hs
  | cons entry entries ih =>
    rw [List.foldlM_cons, Option.bind_eq_bind, Option.bind_eq_some_iff] at h
    obtain ⟨u, hu, hrest⟩ := h
    rw [List.forall_mem_cons] at hstep
    exact ih hstep.2 (hstep.1 s u hs hu) hrest

/-! ## The interpreter -/

/-- What a value says about an interpreter, whether its keys are written or not. -/
def interpreterEntries : Value → List (String × Value)
  | .table _ entries => entries
  | .array items => interpreterKeys.zip items
  | _ => []

theorem foldlM_interpreterEntries {value : Value} {i : Interpreter}
    (h : interpreter? value = some i) :
    (interpreterEntries value).foldlM (fun i entry => setInterpreter i entry.1 entry.2) {} =
      some i := by
  cases value with
  | table | array | moment => exact h
  | _ => exact nomatch h

theorem setInterpreter_kept {i j : Interpreter} {key : String} {value : Value}
    (h : setInterpreter i key value = some j) :
    (key ≠ "interpreter" → j.command = i.command) ∧
      (key ≠ "source-flag" → j.sourceFlag = i.sourceFlag) := by
  unfold setInterpreter at h
  split at h
  case h_4 =>
    obtain rfl := Option.some.inj h
    exact ⟨fun _ => rfl, fun _ => rfl⟩
  all_goals
    obtain ⟨x, -, rfl⟩ := Option.map_eq_some_iff.mp h
    simp

/-- A setting of an interpreter that no entry is about is as it was. -/
theorem interpreter?_usual {β : Type} (view : Interpreter → β) {key : String}
    (hview : ∀ {i j key' value}, setInterpreter i key' value = some j → key' ≠ key →
      view j = view i)
    {value : Value} {i : Interpreter} (h : interpreter? value = some i)
    (hkey : ∀ v, (key, v) ∉ interpreterEntries value) : view i = view {} := by
  refine foldlM_induction (P := fun i => view i = view {}) ?_ rfl (foldlM_interpreterEntries h)
  rintro ⟨key', v⟩ hentry s t hs hset
  rw [← hs]
  exact hview hset fun heq => hkey v (heq ▸ hentry)

/-! ## The other settings -/

namespace FileSettings

variable {β : Type} {s t file : FileSettings} {key text : String} {value : Value}
  {form : Toml.Form} {entries : Toml.Entries}

theorem set_kept (h : s.set key value = some t) :
    (key ≠ "listen" → t.listen = s.listen) ∧ (key ≠ "log-file" → t.logFile = s.logFile) ∧
      (key ≠ "eval" → t.source = s.source) ∧ (key ≠ "path" → t.path = s.path) ∧
      (key ≠ "engine" → t.interpreter = s.interpreter) := by
  unfold set at h
  split at h
  case h_8 => exact nomatch h
  all_goals
    obtain ⟨x, -, rfl⟩ := Option.map_eq_some_iff.mp h
    simp

theorem set_engine (h : s.set "engine" value = some t) :
    interpreter? value = some t.interpreter := by
  obtain ⟨i, hi, rfl⟩ := Option.map_eq_some_iff.mp h
  exact hi

theorem parse_induction {P : FileSettings → Prop} (h : parse text = some file)
    (hdocument : Toml.parse text = some (.table form entries)) (hfresh : P {})
    (hstep : ∀ entry ∈ entries, ∀ s t, P s → set s entry.1 entry.2 = some t → P t) : P file := by
  simp only [parse, hdocument, Option.bind_eq_bind, Option.bind_some] at h
  exact foldlM_induction hstep hfresh h

/-- A setting that no entry of a document is about is as it is without a file. -/
theorem parse_usual (view : FileSettings → β)
    (hview : ∀ {s t key' value}, set s key' value = some t → key' ≠ key → view t = view s)
    (h : parse text = some file) (hdocument : Toml.parse text = some (.table form entries))
    (hkey : ∀ v, (key, v) ∉ entries) : view file = view {} := by
  refine parse_induction (P := fun s => view s = view {}) h hdocument rfl ?_
  rintro ⟨key', v⟩ hentry s t hs hset
  rw [← hs]
  exact hview hset fun heq => hkey v (heq ▸ hentry)

/-- The same for the settings of the interpreter, which have keys of their own. -/
theorem parse_interpreter_usual (view : Interpreter → β)
    (hview : ∀ {i j key' value}, setInterpreter i key' value = some j → key' ≠ key →
      view j = view i)
    (h : parse text = some file) (hdocument : Toml.parse text = some (.table form entries))
    (hkey : ∀ v, ("engine", v) ∈ entries → ∀ w, (key, w) ∉ interpreterEntries v) :
    view file.interpreter = view {} := by
  refine parse_induction (P := fun s => view s.interpreter = view {}) h hdocument rfl ?_
  rintro ⟨key', v⟩ hentry s t hs hset
  by_cases hengine : key' = "engine"
  · subst hengine
    exact interpreter?_usual view hview (set_engine hset) (hkey v hentry)
  · rw [(set_kept hset).2.2.2.2 hengine]
    exact hs

end FileSettings

end DebugAdapter.Settings
