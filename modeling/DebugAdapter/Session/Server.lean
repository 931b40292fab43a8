import DebugAdapter.Session.Basic

/-! # Servers

A server accepts connections and binds each of them to a session with a handler of its own. It
either serves one connection or goes on until no connection can be accepted. -/

namespace DebugAdapter.Session

open Protocol

/-- A stream in each direction, with the name of its other end. -/
structure Connection where
  peer : String
  feed : Feed
  sink : Sink := {}

/-- A server whose next connections are known, with the state in which each one's handler
starts. After them no connection can be accepted. -/
structure Server (σ : Type) where
  address : String
  handler : Handler σ
  arriving : List (Connection × σ)
  failure : IoError := .connectionAborted
  journal : Journal := {}
  /-- The sessions that were accepted, the last one first. -/
  accepted : List (Session σ) := []

namespace Server

variable {σ : Type}

/-- A session for the next connection, ready to run. -/
def accept (server : Server σ) : Except Error (Session σ) × Server σ :=
  match server.arriving with
  | [] => (.error (.io server.failure), server)
  | (connection, handlerState) :: arriving =>
    let text := "client connected: " ++ connection.peer
    let journal := (server.journal.write .info text).record (.note text)
    (.ok
      { peer := connection.peer
        decoder := { source := { feed := connection.feed } }
        outbox := { encoder := { sink := connection.sink }, journal }
        handler := server.handler
        handlerState },
      { server with arriving, journal })

/-- Reports how a session ended. -/
def report {σ : Type} (s : Session σ) (result : Except Error Unit) (journal : Journal) : Journal :=
  let journal := s.errors.foldl
    (fun j e => j.write .warn (s.peer ++ " session error: " ++ e.message)) journal
  match result with
  | .ok () =>
    (journal.write .info (s.peer ++ " session finished")).record (.note "session finished OK")
  | .error e =>
    (journal.write .warn (s.peer ++ " ERR " ++ e.message)).record
      (.note ("session error: " ++ e.message))

/-- Accepts a connection and runs its session. The first error is one of accepting. -/
def serveNext (server : Server σ) : Except Error (Except Error Unit) × Server σ :=
  match server.accept with
  | (.error e, server) => (.error e, server)
  | (.ok s, server) =>
    let (result, s) := s.run
    let journal := report s result s.outbox.journal
    (.ok result, { server with journal, accepted := s :: server.accepted })

/-- Serves one connection; its session's error is the result. -/
def serveOne (server : Server σ) : Except Error Unit × Server σ :=
  match server.serveNext with
  | (.error e, server) => (.error e, server)
  | (.ok result, server) => (result, server)

/-- `serve`, for at most so many connections. -/
def serveWithin : Nat → Server σ → Except Error Unit × Server σ
  | 0, server => (.ok (), server)
  | bound + 1, server =>
    match server.serveNext with
    | (.error e, server) => (.error e, server)
    | (.ok _, server) => serveWithin bound server

/-- Serves connections until none can be accepted. What becomes of a session does not matter
to the others. -/
def serve (server : Server σ) : Except Error Unit × Server σ :=
  serveWithin (server.arriving.length + 1) server

end Server

end DebugAdapter.Session
