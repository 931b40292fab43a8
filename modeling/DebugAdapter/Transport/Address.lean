import DebugAdapter.Text.Blank
import DebugAdapter.Text.Quoted

/-! # Listen addresses

Where to wait for clients: `stdio`, `tcp://host:port` or `unix:///path`, with blanks around it
ignored. -/

namespace DebugAdapter.Transport

inductive Address where
  | stdio
  | tcp (host : String)
  | unix (path : String)
  deriving DecidableEq, Repr

inductive AddressError where
  | unknownScheme (text : String)
  /-- A scheme with nothing after it. -/
  | empty (scheme : String)
  deriving DecidableEq, Repr

def AddressError.message : AddressError → String
  | .unknownScheme text =>
    "unsupported listen address " ++ Text.quoted text ++
      ", expected `stdio`, `tcp://host:port` or `unix:///path`"
  | .empty scheme => "empty " ++ scheme ++ " address"

namespace Address

def stdioText : List Char := "stdio".toList

def tcpScheme : List Char := "tcp://".toList

def unixScheme : List Char := "unix://".toList

/-- What follows a scheme at the start of an address. -/
def after? (scheme : List Char) (text : List Char) : Option (List Char) :=
  if scheme.isPrefixOf text then some (text.drop scheme.length) else none

def parse (text : String) : Except AddressError Address :=
  let trimmed := Text.trim text.toList
  if trimmed = stdioText then .ok .stdio
  else match after? tcpScheme trimmed with
    | some [] => .error (.empty "tcp")
    | some host => .ok (.tcp (String.ofList host))
    | none =>
      match after? unixScheme trimmed with
      | some [] => .error (.empty "unix")
      | some path => .ok (.unix (String.ofList path))
      | none => .error (.unknownScheme (String.ofList trimmed))

/-- The text of an address. -/
def text : Address → String
  | .stdio => "stdio"
  | .tcp host => "tcp://" ++ host
  | .unix path => "unix://" ++ path

end Address

end DebugAdapter.Transport
