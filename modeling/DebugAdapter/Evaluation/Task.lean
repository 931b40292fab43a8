import DebugAdapter.Debuggee.Page
import DebugAdapter.Evaluation.Queue
import DebugAdapter.Session.Basic

/-! # Tasks

A session, its pump and its engine run at the same time. What a thread still has to do is a list
of tasks, and each task is one step that no other thread can interrupt: one access to a table of
the debuggee, one message sent, one signal. This module plans the tasks of the session for each
message, and the tasks of the pump for each item of the queue. -/

namespace DebugAdapter.Evaluation

open Debuggee Protocol Session

/-! ## Answering requests -/

/-- The one thread that clients are told about. -/
def mainThread : Thread := { id := 1, name := "main" }

/-- What the adapter can do. -/
def capabilities : Capabilities :=
  { supportsConfigurationDoneRequest := some true, supportsTerminateRequest := some true }

/-- A step of the session. -/
inductive Task where
  | send (m : Message)
  /-- Answers a request with an error. -/
  | fail (request : Request) (text : String)
  /-- Starts the evaluation, unless it was started or the context is done. -/
  | start
  /-- Marks the context as done. -/
  | cancel
  /-- Looks for the stop of a thread. -/
  | findStop (request : Request) (arguments : StackTraceArguments)
  /-- Looks up the frames of a stop one after the other, then answers. -/
  | findFrames (request : Request) (arguments : StackTraceArguments) (ids : List Nat)
      (found : List StackFrame)
  | findScopes (request : Request) (arguments : ScopesArguments)
  | findVariables (request : Request) (arguments : VariablesArguments)
  /-- Takes the stop of a thread that shall go on. -/
  | release (request : Request) (arguments : ContinueArguments)
  | purgeEvents
  | purgeFrames
  | purgeVariables
  /-- Lets the thread go on whose stop was taken. -/
  | resume
  /-- Decides whether the session goes on after a message. -/
  | decide (wasStarted : Bool) (flow : Flow)
  /-- Tells the client that the session ends. -/
  | farewell
  | close
  deriving DecidableEq

def Task.respond (request : Request) (body : Option ResponseBody) : Task :=
  .send (.response (.ok request body))

/-- The tasks for a request, and whether the session goes on after it. -/
def planRequest (r : Request) : List Task × Flow :=
  let missing := [Task.fail r ("Missing arguments for " ++ Text.quoted r.command)]
  match r.command, r.arguments with
  | "launch", _ => ([.send (.event { event := "initialized" }), .respond r none], .proceed)
  | "configurationDone", _ => ([.respond r none, .start], .proceed)
  | "threads", _ => ([.respond r (some (.threads { threads := [mainThread] }))], .proceed)
  | "terminate", _ => ([.cancel, .respond r none], .proceed)
  | "disconnect", _ => ([.respond r none], .stop)
  | "stackTrace", some (.stackTrace arguments) => ([.findStop r arguments], .proceed)
  | "scopes", some (.scopes arguments) => ([.findScopes r arguments], .proceed)
  | "variables", some (.variableList arguments) => ([.findVariables r arguments], .proceed)
  | "continue", some (.resume arguments) => ([.release r arguments], .proceed)
  | "stackTrace", none => (missing, .proceed)
  | "scopes", none => (missing, .proceed)
  | "variables", none => (missing, .proceed)
  | "continue", none => (missing, .proceed)
  | command, _ => ([.fail r ("Unknown command " ++ Text.quoted command)], .proceed)

/-- The tasks for a message. Only requests are answered. -/
def planMessage (started : Bool) : Message → List Task
  | .request r => let (tasks, flow) := planRequest r; tasks ++ [.decide started flow]
  | _ => [.decide started .proceed]

/-- What an adapter does with a message before it is opened: it has nobody to answer to, so only
messages without an answer get through. -/
def processUnopened (cancelled : Bool) : Message → Except (List String) Flow
  | .request _ => .error ["adapter is not initialized"]
  | _ => .ok (if cancelled then .stop else .proceed)

/-- The tasks at the end of a session that was opened. -/
def farewellTasks : List Task :=
  [.farewell, .cancel, .purgeEvents, .purgeFrames, .purgeVariables, .close]

/-! ## Passing on what an evaluation produced -/

/-- A step of the pump. -/
inductive PumpTask where
  | send (m : Message)
  | cancel
  | purgeEvents
  | purgeFrames
  | purgeVariables
  /-- Looks which threads are stopped. -/
  | listStopped
  /-- Looks for the stop of a thread, whose frames are out of date. -/
  | findStop (thread : Int64)
  | retain (event : StopEvent)
  /-- Puts the scopes of a frame and then the frame itself behind handles, and keeps the stop
  when there are no more frames. -/
  | record (report : DebugStop) (resume : Channel) (ids : List Nat) (scopes : List Scope)
      (frames : List FrameInfo)
  /-- Tells the client about a stop, unless the session is over. -/
  | announce (report : DebugStop)
  deriving DecidableEq

/-- The tasks for an item. -/
def planItem : Item → List PumpTask
  | .output category text =>
    [.send (.event (.ofBody (.output { category := some category, output := text })))]
  | .stopped report resume =>
    [.purgeFrames, .purgeVariables, .listStopped, .record report resume [] [] report.frames,
      .announce report]
  | .exited code => [.send (.event (.ofBody (.exited { exitCode := code.toInt64 })))]
  | .terminated => [.cancel, .send (.event { event := "terminated" })]

end DebugAdapter.Evaluation
