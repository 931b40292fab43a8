import Mathlib.Data.Finset.Basic
import DebugAdapter.Debuggee.Page
import DebugAdapter.Debuggee.Registries
import DebugAdapter.Protocol.Message
import DebugAdapter.Session.Journal

/-! # Stopped threads without tables

What a client may learn about a stopped debuggee, said without handles that are given out and
dropped: some threads are stopped, and the latest stop is shown as long as no thread went on since.
Frames are numbered from one, and so are scopes, over all frames. Asking for everything gives the
stop back. -/

namespace DebugAdapter.Debuggee

open Protocol

/-! ## What is shown -/

/-- Frames with consecutive handles after a number of other frames. -/
def showFrames (before : Nat) : List FrameInfo → List StackFrame
  | [] => []
  | info :: rest =>
    { id := Int64.ofNat (before + 1)
      name := info.name
      source := info.path.map fun path => { name := Text.fileName? path, path := some path }
      line := info.line
      column := info.column } :: showFrames (before + 1) rest

/-- Scopes with consecutive references after a number of other scopes. -/
def showScopes (before : Nat) : List ScopeInfo → List Scope
  | [] => []
  | info :: rest =>
    { name := info.name, variablesReference := Int64.ofNat (before + 1), expensive := false } ::
      showScopes (before + 1) rest

/-- The scopes of each frame, with consecutive references over all frames. -/
def scopesByFrame (before : Nat) : List FrameInfo → List (List Scope)
  | [] => []
  | info :: rest =>
    showScopes before info.scopes :: scopesByFrame (before + info.scopes.length) rest

/-- The variables of each scope, over all frames. -/
def variablesByScope (frames : List FrameInfo) : List (List Variable) :=
  (frames.flatMap (·.scopes)).map fun scope =>
    scope.members.map fun v =>
      { name := v.name, value := v.value, typeName := v.typeName, variablesReference := 0 }

/-- What is found under a number, counted from one. -/
def numbered {α : Type} (items : List α) (number : Int64) : Option α :=
  if 1 ≤ number.toInt then items[(number.toInt - 1).toNat]? else none

/-! ## Operations and answers -/

/-- What a client asks about a stopped thread. -/
inductive Inquiry where
  | stackTrace (arguments : StackTraceArguments)
  | scopes (arguments : ScopesArguments)
  | members (arguments : VariablesArguments)
  /-- A thread shall go on. -/
  | proceed (arguments : ContinueArguments)

def Inquiry.arguments : Inquiry → RequestArguments
  | stackTrace a => .stackTrace a
  | scopes a => .scopes a
  | members a => .variableList a
  | proceed a => .resume a

/-- The request with which a client asks. -/
def Inquiry.request (seq : Int64) (q : Inquiry) : Request :=
  { Request.ofArguments q.arguments with seq }

/-- What is done with the stops of a debuggee. -/
inductive Operation where
  /-- A thread stops, and waits on a channel. -/
  | stop (report : DebugStop) (resume : Channel)
  /-- All stops are dropped. -/
  | purge
  | ask (seq : Int64) (q : Inquiry)

/-- The operation changes nothing. -/
def Operation.IsLook : Operation → Prop
  | ask _ (.proceed _) => False
  | ask _ _ => True
  | _ => False

/-- What comes of an operation. -/
inductive Answer where
  /-- A stop is made known. -/
  | announced (body : StoppedBody)
  | purged
  | replied (body : Option ResponseBody)
  | refused (text : String)
  deriving DecidableEq

/-! ## The model -/

/-- Which threads are stopped, and the latest stop as long as it is shown. -/
structure StopModel where
  stopped : Finset Int64 := ∅
  current : Option DebugStop := none

namespace StopModel

/-- The frames that are shown. -/
def frames (m : StopModel) : List FrameInfo := (m.current.map DebugStop.frames).getD []

/-- The frames that are shown for a thread. -/
def framesOf (m : StopModel) (thread : Int64) : List StackFrame :=
  if m.current.map DebugStop.thread = some thread then showFrames 0 m.frames else []

def notStopped (thread : Int64) : Answer :=
  .refused ("Thread " ++ Session.seqText thread ++ " is not stopped")

def answer (m : StopModel) : Inquiry → Answer
  | .stackTrace a =>
    if a.threadId ∈ m.stopped then
      .replied (some (.stackTrace
        { stackFrames := page a.startFrame a.levels (m.framesOf a.threadId)
          totalFrames := some (Int64.ofNat (m.framesOf a.threadId).length) }))
    else notStopped a.threadId
  | .scopes a =>
    match numbered (scopesByFrame 0 m.frames) a.frameId with
    | some scopes => .replied (some (.scopes { scopes }))
    | none => .refused ("Invalid frame id " ++ Session.seqText a.frameId)
  | .members a =>
    match numbered (variablesByScope m.frames) a.variablesReference with
    | some found => .replied (some (.variableList { members := page a.start a.count found }))
    | none =>
      .refused ("Invalid variables reference " ++ Session.seqText a.variablesReference)
  | .proceed a =>
    if a.threadId ∈ m.stopped then .replied (some (.resumed { allThreadsContinued := some false }))
    else notStopped a.threadId

/-- An operation, with what comes of it. -/
def step (m : StopModel) : Operation → Answer × StopModel
  | .stop report _ =>
    (.announced
      { reason := report.reason, description := report.description
        threadId := some report.thread, allThreadsStopped := some false },
      { stopped := insert report.thread m.stopped, current := some report })
  | .purge => (.purged, {})
  | .ask _ (.proceed a) =>
    (m.answer (.proceed a),
      if a.threadId ∈ m.stopped then { stopped := m.stopped.erase a.threadId } else m)
  | .ask _ q => (m.answer q, m)

/-- What comes of operations, one after the other. -/
def run : List Operation → StopModel → List Answer × StopModel
  | [], m => ([], m)
  | op :: ops, m =>
    let (answer, m) := m.step op
    let (answers, m) := run ops m
    (answer :: answers, m)

end StopModel

namespace StopModel

variable {m : StopModel}

theorem frames_of_some {stop : DebugStop} (h : m.current = some stop) : m.frames = stop.frames := by
  rw [frames, h]
  rfl

theorem framesOf_of_some {stop : DebugStop} (h : m.current = some stop) (thread : Int64) :
    m.framesOf thread = if stop.thread = thread then showFrames 0 stop.frames else [] := by
  rw [framesOf, frames_of_some h, h]
  simp only [Option.map_some, Option.some.injEq]

theorem framesOf_of_none (h : m.current = none) (thread : Int64) : m.framesOf thread = [] := by
  rw [framesOf, h]
  exact if_neg (fun heq => nomatch heq)

/-- The thread of the stop that is shown is stopped. -/
def ShowsStopped (m : StopModel) : Prop := ∀ stop ∈ m.current, stop.thread ∈ m.stopped

theorem ShowsStopped.fresh : ShowsStopped {} := fun _ hnone => nomatch hnone

theorem ShowsStopped.step (h : m.ShowsStopped) (op : Operation) : (m.step op).2.ShowsStopped := by
  cases op with
  | stop report resume =>
    intro stop hstop
    obtain rfl := Option.some.inj hstop
    exact Finset.mem_insert_self _ _
  | purge => exact .fresh
  | ask seq q =>
    cases q with
    | proceed a =>
      by_cases hmem : a.threadId ∈ m.stopped
      · have hstep : (m.step (.ask seq (.proceed a))).2 =
            { stopped := m.stopped.erase a.threadId } := if_pos hmem
        rw [hstep]
        exact fun _ hnone => nomatch hnone
      · have hstep : (m.step (.ask seq (.proceed a))).2 = m := if_neg hmem
        rw [hstep]
        exact h
    | _ => exact h

theorem ShowsStopped.run (h : m.ShowsStopped) (ops : List Operation) :
    (run ops m).2.ShowsStopped := by
  induction ops generalizing m with
  | nil => exact h
  | cons op ops ih => exact ih (h.step op)

theorem step_ask (m : StopModel) (seq : Int64) (q : Inquiry) :
    (m.step (.ask seq q)).1 = m.answer q := by
  cases q <;> rfl

end StopModel

/-! ## Asking for everything -/

/-- A scope with its variables, from what a client is shown. -/
def rebuildScope (ask : Inquiry → Answer) (scope : Scope) : Option ScopeInfo :=
  match ask (.members { variablesReference := scope.variablesReference }) with
  | .replied (some (.variableList body)) =>
    some { name := scope.name
           members := body.members.map fun v =>
            { name := v.name, value := v.value, typeName := v.typeName } }
  | _ => none

/-- A frame with its scopes, from what a client is shown. Its path is the one of its source. -/
def rebuildFrame (ask : Inquiry → Answer) (frame : StackFrame) : Option FrameInfo :=
  match ask (.scopes { frameId := frame.id }) with
  | .replied (some (.scopes body)) =>
    (body.scopes.mapM (rebuildScope ask)).map fun scopes =>
      { name := frame.name, path := frame.source.bind (·.path), line := frame.line
        column := frame.column, scopes }
  | _ => none

/-- The frames of a thread, from what a client is shown that asks for everything. -/
def rebuildFrames (ask : Inquiry → Answer) (thread : Int64) : Option (List FrameInfo) :=
  match ask (.stackTrace { threadId := thread }) with
  | .replied (some (.stackTrace body)) => body.stackFrames.mapM (rebuildFrame ask)
  | _ => none

/-- A stop has no more frames and no more scopes than there are handles. -/
structure DebugStop.Fits (stop : DebugStop) : Prop where
  frames_lt : stop.frames.length < 2 ^ 63
  scopes_lt : (stop.frames.flatMap (·.scopes)).length < 2 ^ 63

theorem numbered_ofNat_succ {α : Type} (items : List α) {n : Nat} (h : n + 1 < 2 ^ 63) :
    numbered items (Int64.ofNat (n + 1)) = items[n]? := by
  rw [numbered, Int64.toInt_ofNat_of_lt h, if_pos (by omega)]
  congr 1
  omega

theorem page_all {α : Type} (items : List α) : page none none items = items := rfl

theorem length_showScopes (before : Nat) (scopes : List ScopeInfo) :
    (showScopes before scopes).length = scopes.length := by
  induction scopes generalizing before with
  | nil => rfl
  | cons info rest ih => rw [showScopes, List.length_cons, ih, List.length_cons]

theorem scopesByFrame_append (before : Nat) (earlier later : List FrameInfo) :
    scopesByFrame before (earlier ++ later) =
      scopesByFrame before earlier ++
        scopesByFrame (before + (earlier.flatMap (·.scopes)).length) later := by
  induction earlier generalizing before with
  | nil => rfl
  | cons info rest ih =>
    rw [List.cons_append, scopesByFrame, ih, scopesByFrame, List.cons_append, List.flatMap_cons,
      List.length_append, Nat.add_assoc]

theorem length_scopesByFrame (before : Nat) (frames : List FrameInfo) :
    (scopesByFrame before frames).length = frames.length := by
  induction frames generalizing before with
  | nil => rfl
  | cons info rest ih => rw [scopesByFrame, List.length_cons, ih, List.length_cons]

section Rebuild

variable {m : StopModel} {ask : Inquiry → Answer} (hask : ∀ q, ask q = m.answer q)

include hask

theorem rebuildScope_eq {earlier later : List ScopeInfo} {scope : ScopeInfo}
    (hscopes : m.frames.flatMap (·.scopes) = earlier ++ scope :: later)
    (hlt : earlier.length + 1 < 2 ^ 63) :
    rebuildScope ask
        { name := scope.name, variablesReference := Int64.ofNat (earlier.length + 1)
          expensive := false } = some scope := by
  have hfound : numbered (variablesByScope m.frames) (Int64.ofNat (earlier.length + 1)) =
      some (scope.members.map fun v =>
        { name := v.name, value := v.value, typeName := v.typeName, variablesReference := 0 }) := by
    rw [numbered_ofNat_succ _ hlt, variablesByScope, hscopes, List.getElem?_map,
      List.getElem?_append_right (Nat.le_refl _), Nat.sub_self, List.getElem?_cons_zero,
      Option.map_some]
  simp only [rebuildScope, hask, StopModel.answer, hfound, page_all, List.map_map]
  exact congrArg (fun members => some (ScopeInfo.mk scope.name members)) (List.map_id _)

theorem mapM_rebuildScope {earlier scopes later : List ScopeInfo}
    (hscopes : m.frames.flatMap (·.scopes) = earlier ++ (scopes ++ later))
    (hlt : (earlier ++ scopes).length < 2 ^ 63) :
    (showScopes earlier.length scopes).mapM (rebuildScope ask) = some scopes := by
  induction scopes generalizing earlier with
  | nil => rfl
  | cons scope rest ih =>
    rw [List.length_append, List.length_cons] at hlt
    have hhead := rebuildScope_eq hask hscopes (by omega)
    have hrest := @ih (earlier ++ [scope])
      (by rw [hscopes, List.append_assoc, List.cons_append, List.singleton_append])
      (by rw [List.length_append, List.length_append, List.length_singleton]; omega)
    rw [List.length_append, List.length_singleton] at hrest
    rw [showScopes, List.mapM_cons, hhead, hrest]
    rfl

theorem rebuildFrame_eq {earlier later : List FrameInfo} {info : FrameInfo}
    (hframes : m.frames = earlier ++ info :: later) (hlt : earlier.length + 1 < 2 ^ 63)
    (hscopes : (m.frames.flatMap (·.scopes)).length < 2 ^ 63) :
    rebuildFrame ask
        { id := Int64.ofNat (earlier.length + 1)
          name := info.name
          source := info.path.map fun path => { name := Text.fileName? path, path := some path }
          line := info.line
          column := info.column } = some info := by
  have hsplit : m.frames.flatMap (·.scopes) =
      earlier.flatMap (·.scopes) ++ (info.scopes ++ later.flatMap (·.scopes)) := by
    rw [hframes, List.flatMap_append, List.flatMap_cons]
  have hfound : numbered (scopesByFrame 0 m.frames) (Int64.ofNat (earlier.length + 1)) =
      some (showScopes (earlier.flatMap (·.scopes)).length info.scopes) := by
    rw [numbered_ofNat_succ _ hlt, hframes, scopesByFrame_append, Nat.zero_add,
      List.getElem?_append_right (by rw [length_scopesByFrame]), length_scopesByFrame,
      Nat.sub_self, scopesByFrame, List.getElem?_cons_zero]
  have hinner := mapM_rebuildScope hask hsplit (by
    rw [hsplit, List.length_append, List.length_append] at hscopes
    rw [List.length_append]
    omega)
  have hpath : (info.path.map fun path =>
      ({ name := Text.fileName? path, path := some path } : Protocol.Source)).bind (·.path) =
        info.path := by
    cases info.path <;> rfl
  simp only [rebuildFrame, hask, StopModel.answer, hfound, hinner, hpath, Option.map_some]

theorem mapM_rebuildFrame {earlier later : List FrameInfo} (hframes : m.frames = earlier ++ later)
    (hlt : m.frames.length < 2 ^ 63) (hscopes : (m.frames.flatMap (·.scopes)).length < 2 ^ 63) :
    (showFrames earlier.length later).mapM (rebuildFrame ask) = some later := by
  induction later generalizing earlier with
  | nil => rfl
  | cons info rest ih =>
    have hlength : earlier.length + 1 < 2 ^ 63 := by
      rw [hframes, List.length_append, List.length_cons] at hlt
      omega
    have hhead := rebuildFrame_eq hask hframes hlength hscopes
    have hrest := @ih (earlier ++ [info])
      (by rw [hframes, List.append_assoc, List.singleton_append])
    rw [List.length_append, List.length_singleton] at hrest
    rw [showFrames, List.mapM_cons, hhead, hrest]
    rfl

/-- A client that asks for everything after a stop learns everything that was reported. -/
theorem rebuildFrames_eq {stop : DebugStop} (hcurrent : m.current = some stop)
    (hstopped : stop.thread ∈ m.stopped) (hfits : stop.Fits) :
    rebuildFrames ask stop.thread = some stop.frames := by
  have hframes : m.frames = stop.frames := StopModel.frames_of_some hcurrent
  have hshown : m.framesOf stop.thread = showFrames 0 stop.frames := by
    rw [StopModel.framesOf_of_some hcurrent, if_pos rfl]
  simp only [rebuildFrames, hask, StopModel.answer, if_pos hstopped, hshown, page_all]
  exact @mapM_rebuildFrame _ _ hask [] _ hframes (hframes ▸ hfits.frames_lt)
    (hframes ▸ hfits.scopes_lt)

end Rebuild

end DebugAdapter.Debuggee
