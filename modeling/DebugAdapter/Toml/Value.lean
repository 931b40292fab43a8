/-! # TOML values

What a TOML document says. A table remembers how it came to be, because that decides what may
still be added to it. -/

namespace DebugAdapter.Toml

/-- How a table came to be. -/
inductive Form where
  /-- Only as a part of longer headers. -/
  | mentioned
  /-- By keys with dots. -/
  | dotted
  /-- By a header of its own. -/
  | declared
  /-- Between braces. -/
  | inline
  deriving DecidableEq, Repr

inductive Value where
  | text (text : String)
  | integer (n : Int)
  /-- A number with a fraction or an exponent, as it is written. -/
  | float (numeral : String)
  | boolean (b : Bool)
  /-- A date, a time or both, as it is written. -/
  | moment (literal : String)
  | array (items : List Value)
  | table (form : Form) (entries : List (String × Value))
  /-- Tables under headers in double brackets, the last one first. -/
  | tables (items : List (List (String × Value)))
  deriving Repr

/-- The keys of a table with what they stand for. -/
abbrev Entries := List (String × Value)

namespace Entries

/-- The entries with another value for a key, which is put at the end if it is new. -/
def set (key : String) (value : Value) : Entries → Entries
  | [] => [(key, value)]
  | (k, v) :: rest => if k = key then (k, value) :: rest else (k, v) :: set key value rest

/-- Works on the table that a path leads to. A path in a header and a path in a key with dots
differ in the tables that they create and in those that they may enter. -/
def within (dotted : Bool) (act : Form → Entries → Option Entries) :
    Form → Entries → List String → Option Entries
  | form, entries, [] => act form entries
  | _, entries, key :: path =>
    match entries.lookup key with
    | none => do
      let form : Form := if dotted then .dotted else .mentioned
      let inner ← within dotted act form [] path
      some (entries.set key (.table form inner))
    | some (.table form inner) =>
      if form = .inline ∨ (dotted ∧ form = .declared) then none
      else do
        let inner ← within dotted act form inner path
        some (entries.set key (.table form inner))
    | some (.tables (last :: earlier)) => do
      let last ← within dotted act .declared last path
      some (entries.set key (.tables (last :: earlier)))
    | some _ => none

/-- Gives a new key a value. Keys with dots do not add to tables of another kind. -/
def define (entries : Entries) (path : List String) (key : String) (value : Value) :
    Option Entries :=
  within true
    (fun form entries =>
      if (entries.lookup key).isSome ∨ (path ≠ [] ∧ form ≠ .dotted) then none
      else some (entries.set key value))
    .declared entries path

/-- Declares the table of a header, which was not declared before. -/
def declare (entries : Entries) (path : List String) (key : String) : Option Entries :=
  within false
    (fun _ entries =>
      match entries.lookup key with
      | none => some (entries.set key (.table .declared []))
      | some (.table .mentioned inner) => some (entries.set key (.table .declared inner))
      | some _ => none)
    .declared entries path

/-- Adds a table under a header in double brackets. -/
def append (entries : Entries) (path : List String) (key : String) : Option Entries :=
  within false
    (fun _ entries =>
      match entries.lookup key with
      | none => some (entries.set key (.tables [[]]))
      | some (.tables items) => some (entries.set key (.tables ([] :: items)))
      | some _ => none)
    .declared entries path

/-- Gives a key a value in the table that a header opened. -/
def defineUnder (header : List String) (entries : Entries) (path : List String) (key : String)
    (value : Value) : Option Entries :=
  within false (fun _ inner => define inner path key value) .declared entries header

end Entries

end DebugAdapter.Toml
