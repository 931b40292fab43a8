import DebugAdapter.Stream.Error

/-! # Standard streams as a connection

The standard streams of a process make one connection at a time. Both halves of a connection
hold the streams; when the last of them is closed or dropped, the next connection can be made. -/

namespace DebugAdapter.Transport

inductive Half where
  | reader
  | writer
  deriving DecidableEq, Repr

/-- Which halves of a connection are open, and whether somebody still has the connection. -/
structure StdioConnection where
  reader : Bool := true
  writer : Bool := true
  dropped : Bool := false
  deriving DecidableEq, Repr

namespace StdioConnection

def isOpen (c : StdioConnection) : Half → Bool
  | .reader => c.reader
  | .writer => c.writer

/-- The connection without one of its halves. -/
def without (c : StdioConnection) : Half → StdioConnection
  | .reader => { c with reader := false }
  | .writer => { c with writer := false }

/-- Whether a half of the connection holds the streams. -/
def holds (c : StdioConnection) : Bool := c.reader || c.writer

end StdioConnection

/-- The connections made so far. The streams are taken while `busy`. -/
structure Stdio where
  busy : Bool := false
  connections : List StdioConnection := []
  deriving DecidableEq, Repr

namespace Stdio

/-- What the peer of every connection is called. -/
def peer : String := "stdio"

/-- A new connection, unless the streams are taken. -/
def accept? (s : Stdio) : Option Stdio :=
  if s.busy then none else some ⟨true, s.connections ++ [({} : StdioConnection)]⟩

/-- Puts a changed connection back. The streams become free when its last half goes. -/
def update (s : Stdio) (index : Nat) (before after : StdioConnection) : Stdio :=
  ⟨s.busy && !(before.holds && !after.holds), s.connections.set index after⟩

/-- Closes a half of a connection. Nothing if there is no such connection any more. -/
def close? (s : Stdio) (index : Nat) (half : Half) : Option (Except IoError Unit × Stdio) :=
  match s.connections[index]? with
  | none => none
  | some c =>
    if c.dropped then none
    else if c.isOpen half then some (.ok (), s.update index c (c.without half))
    else some (.error .notConnected, s)

/-- Drops a connection with all its open halves. One that was dropped before stays so. -/
def drop? (s : Stdio) (index : Nat) : Option Stdio :=
  s.connections[index]?.map fun c => s.update index c ⟨false, false, true⟩

/-- Drops one half of a connection by itself. -/
def dropHalf? (s : Stdio) (index : Nat) (half : Half) : Option Stdio :=
  s.connections[index]?.map fun c => s.update index c (c.without half)

end Stdio

end DebugAdapter.Transport
