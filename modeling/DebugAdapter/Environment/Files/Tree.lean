import DebugAdapter.Stream.Error
import DebugAdapter.Text.Path
import DebugAdapter.Text.Utf8

/-! # Trees of files

The files that child programs meet. The adapter itself reads no more of a system than the bytes of
a configuration file, and knows nothing of trees.

Places in a tree are lists of names. A path is a text that leads to a place, perhaps over links
and back to directories above; on its way it may only go through directories. -/

namespace DebugAdapter.Files

/-- What stands between two slashes of a path. -/
abbrev Name := Bytes

/-- What there is at a place. -/
inductive Node where
  | directory
  /-- A file, and whether it is a program. -/
  | file (contents : Bytes) (runs : Bool)
  | link (target : List Name)
  /-- Takes everything and holds nothing. -/
  | null
  /-- Takes everything and holds zeros without end. -/
  | zeros
  /-- Takes nothing and holds zeros without end. -/
  | full
  deriving DecidableEq

/-- How many zeros are taken from a device without end by somebody who wants all of them. -/
def zerosTaken : Nat := 1048576

/-- What a reader finds there, at most so many bytes of it if a number is given. -/
def Node.contents (wanted : Option Nat) : Node → Except SystemError Bytes
  | .directory => .error .isDirectory
  | .file contents _ => .ok ((wanted.map contents.take).getD contents)
  | .link _ => .error .tooManyLinks
  | .null => .ok []
  | .zeros | .full => .ok (List.replicate (wanted.getD zerosTaken) 0)

structure Tree where
  entries : List (List Name × Node) := []
  /-- Where paths start that do not start at the root. -/
  here : List Name := []
  deriving DecidableEq

namespace Tree

/-- The names in a path. -/
def names (path : Bytes) : List Name := Text.between 0x2F path

/-- The longest name and the longest path. -/
def nameLimit : Nat := 255
def pathLimit : Nat := 4095

/-- How many steps a way may have beyond the names in its path. -/
def detourLimit : Nat := 400

/-- What there is at a place. A place above another one is a directory. -/
def node? (t : Tree) (place : List Name) : Option Node :=
  (t.entries.lookup place).or <|
    if place = [] ∨ t.entries.any (place.isPrefixOf ·.1) then some .directory else none

/-- The place to which names lead from a place. Nothing has to be there, but what is on the way
has to. The first argument bounds the number of steps. -/
def walk (t : Tree) : Nat → List Name → List Name → Except SystemError (List Name)
  | 0, _, _ => .error .tooManyLinks
  | _ + 1, place, [] => .ok place
  | bound + 1, place, name :: rest =>
    if t.node? place ≠ some .directory then .error .notDirectory
    else if name = [] ∨ name = [0x2E] then walk t bound place rest
    else if name = [0x2E, 0x2E] then walk t bound place.dropLast rest
    else if nameLimit < name.length then .error .nameTooLong
    else match t.node? (place ++ [name]) with
      | none => if rest = [] then .ok (place ++ [name]) else .error .noEntry
      | some (.link target) => walk t bound [] (target ++ rest)
      | some _ => walk t bound (place ++ [name]) rest

/-- The place to which a path leads. -/
def locate (t : Tree) (path : Bytes) : Except IoError (List Name) :=
  if path.contains 0 then .error .nulInName
  else if path = [] then .error (.system .noEntry)
  else if pathLimit < path.length then .error (.system .nameTooLong)
  else
    let names := names path
    (t.walk (names.length + detourLimit) (if path.head? = some 0x2F then [] else t.here)
      names).mapError .system

/-- What there is where a path leads. -/
def find (t : Tree) (path : Bytes) : Except IoError Node := do
  match t.node? (← t.locate path) with
  | some node => .ok node
  | none => .error (.system .noEntry)

/-- What a reader finds where a path leads. -/
def read (t : Tree) (path : Bytes) (wanted : Option Nat) : Except IoError Bytes := do
  ((← t.find path).contents wanted).mapError .system

/-- The names of what there is in a directory, in ascending order. -/
def below (t : Tree) (place : List Name) : List Name :=
  (t.entries.filterMap fun (other, _) =>
    if place.isPrefixOf other then (other.drop place.length).head? else none).eraseDups.mergeSort
      (fun a b => decide (a ≤ b))

/-- Puts something at a place. -/
def put (t : Tree) (place : List Name) (node : Node) : Tree :=
  { t with entries := (place, node) :: t.entries.filter (·.1 ≠ place) }

/-- Takes away what is at a place and below it. -/
def remove (t : Tree) (place : List Name) : Tree :=
  { t with entries := t.entries.filter fun e => !place.isPrefixOf e.1 }

/-- Writes to the file at a path, which is made if it is not there. -/
def write (t : Tree) (path contents : Bytes) (append : Bool) : Except IoError Tree := do
  let place ← t.locate path
  match t.node? place with
  | none => .ok (t.put place (.file contents false))
  | some (.file before runs) =>
    .ok (t.put place (.file (if append then before ++ contents else contents) runs))
  | some .directory => .error (.system .isDirectory)
  | some _ => .ok t

/-- A tree with the changes that were made to another one. -/
def withChanges (before after t : Tree) : Tree :=
  let kept := t.entries.filter fun e =>
    (before.entries.lookup e.1).isNone || (after.entries.lookup e.1).isSome
  { t with entries := kept } |> (after.entries.filter fun e =>
    before.entries.lookup e.1 ≠ some e.2).foldl fun t e => t.put e.1 e.2

end Tree

end DebugAdapter.Files
