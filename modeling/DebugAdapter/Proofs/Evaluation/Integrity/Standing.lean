import DebugAdapter.Proofs.Evaluation.Exchanges
import DebugAdapter.Proofs.Evaluation.Recording

/-! # Handles and what they were given out for

A handle stands for a frame or a scope of the stop for which it was given out. While the pump gives
out handles the session may purge them, since another thread goes on; then the numbers start again
in the middle of a stop. -/

namespace DebugAdapter.Evaluation

open Debuggee Protocol Session

/-! ## The tables of a stop, split at a frame -/

theorem showScopes_append (before : Nat) (earlier later : List ScopeInfo) :
    showScopes before (earlier ++ later) =
      showScopes before earlier ++ showScopes (before + earlier.length) later := by
  induction earlier generalizing before with
  | nil => simp [showScopes]
  | cons info rest ih => simp [showScopes, ih, Nat.add_assoc, Nat.add_comm 1]

theorem frameTable_append (before : Nat) (earlier later : List FrameInfo) :
    frameTable before (earlier ++ later) =
      frameTable before earlier ++
        frameTable (before + (earlier.flatMap (·.scopes)).length) later := by
  induction earlier generalizing before with
  | nil => simp [frameTable]
  | cons info rest ih =>
    rw [List.cons_append, frameTable, ih, frameTable, List.cons_append, List.flatMap_cons,
      List.length_append, Nat.add_assoc]

@[simp] theorem length_frameTable (before : Nat) (frames : List FrameInfo) :
    (frameTable before frames).length = frames.length := by
  induction frames generalizing before with
  | nil => simp [frameTable]
  | cons info rest ih => simp [frameTable, ih]

theorem variablesByScope_append (earlier later : List FrameInfo) :
    variablesByScope (earlier ++ later) = variablesByScope earlier ++ variablesByScope later := by
  simp [variablesByScope]

theorem length_variablesByScope (frames : List FrameInfo) :
    (variablesByScope frames).length = (frames.flatMap (·.scopes)).length := List.length_map _

/-- The frame that follows some others in the table of a stop. -/
theorem getElem?_frameTable (earlier later : List FrameInfo) (frame : FrameInfo) :
    (frameTable 0 (earlier ++ frame :: later))[earlier.length]? =
      some (.ofInfo frame (showScopes (earlier.flatMap (·.scopes)).length frame.scopes)) := by
  rw [frameTable_append, List.getElem?_append_right (by simp), Nat.zero_add]
  simp [frameTable]

/-- The variables of the scope that follows some others in a frame, and all those of earlier frames. -/
theorem getElem?_variablesByScope {earlier later : List FrameInfo} {frame : FrameInfo}
    {before after : List ScopeInfo} {scope : ScopeInfo}
    (hscopes : frame.scopes = before ++ scope :: after) :
    (variablesByScope (earlier ++ frame :: later))[
      (earlier.flatMap (·.scopes)).length + before.length]? = some scope.listed := by
  have hfound : (variablesByScope (frame :: later))[before.length]? = some scope.listed := by
    simp [variablesByScope_cons, hscopes]
  rw [variablesByScope_append, List.getElem?_append_right (by rw [length_variablesByScope]; omega),
    length_variablesByScope, Nat.add_sub_cancel_left]
  exact hfound

theorem isPrefix_concat {α : Type} {items all : List α} {a : α} (h : items <+: all)
    (hnext : all[items.length]? = some a) : items ++ [a] <+: all := by
  obtain ⟨hlt, rfl⟩ := List.getElem?_eq_some_iff.mp hnext
  exact List.concat_get_prefix h hlt

theorem getElem?_of_isPrefix {α : Type} {items all : List α} {a : α} {n : Nat} (h : items <+: all)
    (hget : items[n]? = some a) : all[n]? = some a := by
  obtain ⟨hlt, rfl⟩ := List.getElem?_eq_some_iff.mp hget
  exact List.prefix_iff_getElem?.mp h n hlt

/-! ## What handles stand for -/

/-- The reference of a scope leads to the variables of a reported scope, if it leads anywhere. -/
structure ScopeStands (g : Registries) (scope : Scope) (info : ScopeInfo) : Prop where
  name_eq : scope.name = info.name
  locals : ∀ found, g.locals.get? scope.variablesReference.toInt = some found → found = info.listed

/-- The frame is a reported frame, with its scopes. -/
structure FrameStands (g : Registries) (frame : Frame) (info : FrameInfo) : Prop where
  frame_eq : frame = .ofInfo info frame.scopes
  scopes : List.Forall₂ (ScopeStands g) frame.scopes info.scopes

/-- The handles of a stop lead to the frames that were reported, if they lead anywhere, and no two of
them are the same. -/
structure StopStands (g : Registries) (event : StopEvent) (report : DebugStop) : Prop where
  nodup : event.frameIds.Nodup
  frames : ∀ (n id : Nat) frame, event.frameIds[n]? = some id → g.frames.get? id = some frame →
    ∃ info, report.frames[n]? = some info ∧ FrameStands g frame info

/-- Handles stand for what they were given out for. -/
structure Sound (log : List Happening) (g : Registries) : Prop where
  /-- No two stops wait on one channel. -/
  apart : (takenStops log).Pairwise (·.2 < ·.2)
  /-- A stop in the table was reported on the channel on which its thread waits. -/
  stops : ∀ thread event, g.events.get? thread = some event →
    ∃ report, (report, event.resume) ∈ takenStops log ∧ report.thread = thread ∧
      StopStands g event report
  /-- The frames in the table are those of one stop, each in the place that is its handle, and no stop
  that was kept is more recent. -/
  frames : ∃ stop, (∀ event ∈ recordeds log, event.resume ≤ stop.2) ∧
    ∀ id frame, g.frames.get? id = some frame → stop ∈ takenStops log ∧
      ∃ info, stop.1.frames[(id - 1).toNat]? = some info ∧ FrameStands g frame info

/-! ## Purges in the middle of a stop -/

/-- The session is about to purge the frames in the middle of a stop: some of its frames have handles,
and others get theirs later. -/
def System.cutsFrames (s : System) : Bool :=
  match s.pump, s.session.work with
  | .record _ _ ids _ (_ :: _) :: _, .purgeFrames :: _ => !ids.isEmpty
  | _, _ => false

/-- The session is about to purge the variables in the middle of a stop: some are in the table, and
others follow. -/
def System.cutsLocals (s : System) : Bool :=
  match s.pump, s.session.work with
  | .record _ _ _ scopes frames :: _, .purgeVariables :: _ =>
    !s.registries.locals.entries.isEmpty && scopes.length < (frames.flatMap (·.scopes)).length
  | _, _ => false

/-- The session purges handles in the middle of a stop. -/
def Transition.Cuts (x : Transition) : Prop :=
  x.move = .step .session ∧ (x.before.cutsFrames ∨ x.before.cutsLocals)

instance (x : Transition) : Decidable x.Cuts := inferInstanceAs (Decidable (_ ∧ _))

theorem System.cutsFrames_iff {s : System} : s.cutsFrames ↔
    ∃ report c ids scopes frame frames rest,
      s.pump = .record report c ids scopes (frame :: frames) :: rest ∧ ids ≠ [] ∧
        s.session.work.head? = some .purgeFrames := by
  constructor
  · intro h
    rw [System.cutsFrames] at h
    split at h
    · rename_i report c ids scopes frame frames rest tasks hpump hwork
      exact ⟨report, c, ids, scopes, frame, frames, rest, hpump, by simpa using h, by rw [hwork]; rfl⟩
    · exact nomatch h
  · rintro ⟨report, c, ids, scopes, frame, frames, rest, hpump, hids, hhead⟩
    obtain ⟨tasks, hwork⟩ := List.head?_eq_some_iff.mp hhead
    rw [System.cutsFrames, hpump, hwork]
    simpa using hids

theorem System.cutsLocals_of_left {s : System} {report : DebugStop} {c : Channel} {ids : List Nat}
    {scopes : List Scope} {frames : List FrameInfo} {rest : List PumpTask}
    (hpump : s.pump = .record report c ids scopes frames :: rest)
    (hlocals : s.registries.locals.entries ≠ #[])
    (hleft : scopes.length < (frames.flatMap (·.scopes)).length)
    (hhead : s.session.work.head? = some .purgeVariables) : s.cutsLocals := by
  obtain ⟨tasks, hwork⟩ := List.head?_eq_some_iff.mp hhead
  have hsome : s.registries.locals.entries.isEmpty = false := by simpa using hlocals
  rw [System.cutsLocals, hpump, hwork]
  dsimp only
  rw [hsome, decide_eq_true hleft]
  rfl

end DebugAdapter.Evaluation
