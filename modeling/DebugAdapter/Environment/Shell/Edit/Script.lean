import DebugAdapter.Environment.Shell.Regex

/-! # Scripts that edit lines

A script is applied to every line of a text. Each of its commands may have addresses that say for
which lines it is meant. -/

namespace DebugAdapter.Shell.Edit

inductive Address where
  | line (n : Nat)
  | last
  /-- The lines that fit an expression, or else the one that stands before in the script. -/
  | fits (r : Option Regex) (folds : Bool)
  /-- A line and every so many after it. -/
  | step (first by_ : Nat)
  deriving DecidableEq, Repr

/-- Where a range of lines ends that starts with an address. -/
inductive RangeEnd where
  | at_ (a : Address)
  | lines (n : Nat)
  /-- The next line whose number is a multiple. -/
  | multiple (n : Nat)
  deriving DecidableEq, Repr

/-- How letters are replaced. -/
inductive Letters where
  | asTheyAre
  | upper
  | lower
  deriving DecidableEq, Repr

/-- A part of what replaces a match. -/
inductive Part where
  | text (text : Text)
  | group (n : Nat)
  /-- How the letters that follow are replaced, or only the next one. -/
  | letters (letters : Letters) (onlyNext : Bool)
  deriving DecidableEq, Repr

/-- Which matches are replaced, and what is done with the line then. -/
structure Flags where
  folds : Bool := false
  every : Bool := false
  prints : Bool := false
  /-- The number of the first match that is replaced. -/
  nth : Option Nat := none
  /-- The file to which the line is written. -/
  file : Option Text := none
  deriving DecidableEq, Repr

inductive Action where
  /-- Goes on after the block that starts here, unless it is meant. -/
  | block (close : Nat)
  | nothing
  | replace (r : Option Regex) (parts : List Part) (flags : Flags)
  | exchange (table : List (Char × Char))
  | print
  | printFirst
  /-- Prints so that everything can be seen, on lines of some length. -/
  | list (width : Option Nat)
  | printName
  | delete
  | deleteFirst
  | empty
  | next
  | appendNext
  | hold
  | appendHold
  | get
  | appendGet
  | swap
  | quit (code : UInt8) (prints : Bool)
  | lineNumber
  | append (text : Text)
  | insert (text : Text)
  | change (text : Text)
  | read (file : Text)
  | write (file : Text)
  | branch (label : Text)
  | branchIf (label : Text)
  | branchUnless (label : Text)
  | label (name : Text)
  deriving DecidableEq, Repr

structure Command where
  first : Option Address := none
  last : Option RangeEnd := none
  negated : Bool := false
  action : Action
  /-- Whether the command is the end of a block. -/
  closes : Bool := false
  deriving DecidableEq, Repr

/-- What is wrong with a script. -/
inductive Fault where
  | unknownCommand (c : Char)
  | missingCommand
  | openReplace
  | openExchange
  | openAddress
  | unknownOption
  | repeatedOption (c : Char)
  | repeatedNumber
  | zeroNumber
  | noReference (n : Nat)
  | extraCharacters
  | unequalLengths
  | unexpectedClose
  | openBlock
  | noAddresses (what : String)
  | oneAddress
  | lineZero
  | unexpectedComma
  | relativeAddress
  | repeatedNegation
  | noLabelName
  | noFile
  | expectedText
  | noPrevious
  | pattern (fault : Regex.Fault)
  deriving DecidableEq, Repr

def Fault.message : Fault → Text
  | .unknownCommand c => "unknown command: \x60".toList ++ [c, '\'']
  | .missingCommand => "missing command".toList
  | .openReplace => "unterminated \x60s' command".toList
  | .openExchange => "unterminated \x60y' command".toList
  | .openAddress => "unterminated address regex".toList
  | .unknownOption => "unknown option to \x60s'".toList
  | .repeatedOption c => "multiple \x60".toList ++ c :: "' options to \x60s' command".toList
  | .repeatedNumber => "multiple number options to \x60s' command".toList
  | .zeroNumber => "number option to \x60s' command may not be zero".toList
  | .noReference n =>
    "invalid reference \\".toList ++ decimal n ++ " on \x60s' command's RHS".toList
  | .extraCharacters => "extra characters after command".toList
  | .unequalLengths => "strings for \x60y' command are different lengths".toList
  | .unexpectedClose => "unexpected \x60\x7d'".toList
  | .openBlock => "unmatched \x60\x7b'".toList
  | .noAddresses what => what.toList ++ " any addresses".toList
  | .oneAddress => "command only uses one address".toList
  | .lineZero => "invalid usage of line address 0".toList
  | .unexpectedComma => "unexpected \x60,'".toList
  | .relativeAddress => "invalid usage of +N or ~N as first address".toList
  | .repeatedNegation => "multiple \x60!'s".toList
  | .noLabelName => "\":\" lacks a label".toList
  | .noFile => "missing filename in r/R/w/W commands".toList
  | .expectedText => "expected \\ after \x60a', \x60c' or \x60i'".toList
  | .noPrevious => "no previous regular expression".toList
  | .pattern fault => fault.message.toList

/-! ## Blocks and expressions -/

/-- Where the block ends that starts before some commands. -/
def blockEnd : Nat → Nat → List Command → Option Nat
  | _, _, [] => none
  | depth, i, c :: rest =>
    if c.closes then
      if depth = 0 then some i else blockEnd (depth - 1) (i + 1) rest
    else match c.action with
      | .block _ => blockEnd (depth + 1) (i + 1) rest
      | _ => blockEnd depth (i + 1) rest

/-- Commands with the ends of their blocks, of which the first one has a number. -/
def withEnds : Nat → List Command → Except Fault (List Command)
  | _, [] => .ok []
  | i, c :: rest => do
    let more ← withEnds (i + 1) rest
    match c.action with
    | .block _ =>
      match blockEnd 0 (i + 1) rest with
      | some close => .ok ({ c with action := .block close } :: more)
      | none => .error .openBlock
    | _ => .ok (c :: more)

/-- An address with its expression, and the last expression after it. -/
def Address.withPrevious (previous : Option Regex) :
    Address → Except Fault (Address × Option Regex)
  | .fits r folds =>
    match r.or previous with
    | some r => .ok (.fits r folds, r)
    | none => .error .noPrevious
  | a => .ok (a, previous)

/-- Commands with all their expressions. -/
def withPrevious : Option Regex → List Command → Except Fault (List Command)
  | _, [] => .ok []
  | previous, c :: rest => do
    let (first, previous) ← match c.first with
      | some a => do
        let (a, previous) ← a.withPrevious previous
        pure (some a, previous)
      | none => pure (none, previous)
    let (last, previous) ← match c.last with
      | some (.at_ a) => do
        let (a, previous) ← a.withPrevious previous
        pure (some (.at_ a), previous)
      | last => pure (last, previous)
    let (action, previous) ← match c.action with
      | .replace r parts flags =>
        match r.or previous with
        | some r => pure (.replace (some r) parts flags, some r)
        | none => .error .noPrevious
      | action => pure (action, previous)
    return { c with first, last, action } :: (← withPrevious previous rest)

/-- The index of a label, or of the end. -/
def target (commands : List Command) (name : Text) : Nat :=
  if name.isEmpty then commands.length
  else (commands.findIdx? fun c => c.action == .label name).getD commands.length

/-- The last label that is asked for and not there. -/
def missingLabel? (commands : List Command) : Option Text :=
  commands.reverse.findSome? fun c => match c.action with
    | .branch name | .branchIf name | .branchUnless name =>
      if !name.isEmpty && target commands name = commands.length then some name else none
    | _ => none

end DebugAdapter.Shell.Edit
