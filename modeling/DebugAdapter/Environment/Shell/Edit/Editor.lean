import DebugAdapter.Environment.Files.Tree
import DebugAdapter.Environment.Shell.Edit.Script
import DebugAdapter.Environment.Shell.Utility.Basic

/-! # Editing lines

A line is in the pattern space while the commands of a script are applied to it; another text is
held meanwhile. -/

namespace DebugAdapter.Shell.Edit

open Files (Tree)

structure Editor where
  pattern : Text := []
  held : Text := []
  /-- Whether the two texts are lines with an end. -/
  isEnded : Bool := true
  isHeldEnded : Bool := true
  number : Nat := 0
  /-- What the text is called that is being edited. -/
  name : Text := ['-']
  /-- The lines that were not read yet, and whether the last one of all has an end. -/
  left : List Text
  ends : Bool
  /-- The output, its last part first. -/
  output : List Text := []
  /-- What is written after the current line. -/
  queue : List Text := []
  /-- Whether something was replaced since the line was read or a branch was taken. -/
  replaced : Bool := false
  /-- The ranges that were begun, by their commands, with their last line if it is known. -/
  ranges : List (Nat × Option Nat) := []
  files : Tree
  done : Bool := false
  status : UInt8 := 0

namespace Editor

open Utility (bareLines ended escaped isPrintable)

/-! ## Output -/

def isLast (e : Editor) : Bool := e.left.isEmpty

/-- Writes a text that ends a line. -/
def emitText (e : Editor) (text : Text) : Editor :=
  if text.isEmpty then e
  else { e with output := text :: (match e.output with
    | last :: rest => (if last.getLast? = some '\n' then last else ended last) :: rest
    | [] => []) }

/-- Writes the current line, or a part of it. -/
def emit (e : Editor) (text : Text) : Editor :=
  if !e.isEnded then
    { e.emitText ['\n'] with output := text :: (e.emitText ['\n']).output.drop 1 }
  else e.emitText (ended text)

/-- Writes what is written after the current line. -/
def flush (e : Editor) : Editor := { e.queue.foldl emitText e with queue := [] }

/-- Ends the work on a line. -/
def finishLine (quiet : Bool) (e : Editor) : Editor :=
  (if quiet then e else e.emit e.pattern).flush

/-- Writes a line to a file. -/
def writeTo (e : Editor) (file text : Text) : Editor :=
  if file = "/dev/stdout".toList then e.emit text
  else match e.files.write (toBytes file) (toBytes (ended text)) true with
    | .ok files => { e with files }
    | .error _ => e

/-- Units of a text, on lines that are no longer than a width. -/
def wrapped (width : Nat) : Nat → List Text → Text
  | _, [] => ['$', '\n']
  | column, unit :: rest =>
    if 1 < width ∧ width - 1 < column + unit.length then
      '\\' :: '\n' :: unit ++ wrapped width unit.length rest
    else unit ++ wrapped width (column + unit.length) rest

/-- A text of which everything can be seen. -/
def listed (width : Nat) (text : Text) : Text :=
  wrapped width 0 (text.map fun c =>
    if c = '\\' then ['\\', '\\'] else if isPrintable c then [c] else escaped c)

/-! ## Addresses -/

def fits (e : Editor) : Address → Bool
  | .line n => e.number = n
  | .last => e.isLast
  | .fits r folds => ((r.map fun r => (Regex.first? folds r e.pattern).isSome)).getD false
  | .step first by_ =>
    if by_ = 0 then e.number = first else first ≤ e.number && (e.number - first) % by_ = 0

/-- Whether a command is meant for the current line. -/
def isMeant (e : Editor) (index : Nat) (c : Command) : Bool × Editor :=
  let ended := { e with ranges := e.ranges.filter (·.1 != index) }
  let begun (last : Option Nat) : Bool × Editor :=
    (true, { ended with ranges := (index, last) :: ended.ranges })
  match c.first, c.last with
  | none, _ => (true, e)
  | some a, none => (e.fits a, e)
  | some a, some last =>
    match e.ranges.lookup index with
    | some (some n) => (true, if n ≤ e.number then ended else e)
    | some none =>
      match last with
      | .at_ b => (true, if e.fits b then ended else e)
      | _ => (true, e)
    | none =>
      if !e.fits a then (false, e)
      else match last with
        | .at_ (.line n) => if n ≤ e.number then (true, e) else begun (some n)
        | .at_ .last => if e.isLast then (true, e) else begun none
        | .at_ _ => begun none
        | .lines n => if n = 0 then (true, e) else begun (some (e.number + n))
        | .multiple n =>
          if n = 0 ∨ e.number % n = 0 then (true, e) else begun (some ((e.number / n + 1) * n))

/-! ## Replacements -/

/-- A letter as it is wanted. -/
def changed (letters : Letters) (c : Char) : Char :=
  match letters with
  | .asTheyAre => c
  | .upper => c.toUpper
  | .lower => c.toLower

/-- What replaces a match. The first two arguments say how letters are replaced from here on and
how the next one is. -/
def replacement (text : Text) (m : Regex.Match) : Letters → Option Letters → List Part → Text
  | _, _, [] => []
  | all, next, part :: rest =>
    let put (new : Text) : Text :=
      match new with
      | [] => replacement text m all next rest
      | c :: cs =>
        changed (next.getD all) c :: cs.map (changed all) ++ replacement text m all none rest
    match part with
    | .text new => put new
    | .group 0 => put ((text.drop m.start).take m.length)
    | .group n => put ((m.groups.lookup n).getD [])
    | .letters letters onlyNext =>
      if onlyNext then replacement text m all (some letters) rest
      else replacement text m letters next rest

/-- A text in which matches were replaced; whether there were any. -/
def substituted (r : Regex) (parts : List Part) (flags : Flags) (text : Text) :
    Text × Bool :=
  let found := (Regex.all flags.folds r text).drop (flags.nth.getD 1 - 1)
  let found := if flags.every then found else found.take 1
  let (_, result) := found.foldl (fun (at_, result) m =>
    (m.start + m.length, result ++ (text.drop at_).take (m.start - at_) ++
      replacement text m .asTheyAre none parts)) (0, [])
  let position := ((found.getLast?).map fun m => m.start + m.length).getD 0
  (result ++ text.drop position, !found.isEmpty)

/-! ## Running -/

/-- Reads the next line, if there is one. -/
def advance (e : Editor) (join : Bool) : Option Editor :=
  match e.left with
  | [] => none
  | line :: left => some { e with
      left, number := e.number + 1, isEnded := !left.isEmpty || e.ends
      pattern := if join then e.pattern ++ '\n' :: line else line }

/-- Runs the commands from one of them on. The first argument bounds the number of steps. -/
def perform (quiet : Bool) (width : Nat) (commands : List Command) : Nat → Nat → Editor → Editor
  | 0, _, e => { e with done := true }
  | bound + 1, index, e =>
    match commands[index]? with
    | none => e.finishLine quiet
    | some c =>
      let (fits, e) := e.isMeant index c
      let on (e : Editor) := perform quiet width commands bound (index + 1) e
      let jump (name : Text) (e : Editor) :=
        perform quiet width commands bound (target commands name) e
      if fits == c.negated then
        match c.action with
        | .block close => perform quiet width commands bound close e
        | _ => on e
      else match c.action with
        | .block _ | .nothing | .label _ => on e
        | .replace r parts flags =>
          let (pattern, changed) :=
            (r.map fun r => substituted r parts flags e.pattern).getD (e.pattern, false)
          if changed then
            let e := { e with pattern, replaced := true }
            let e := if flags.prints then e.emit pattern else e
            on (match flags.file with
              | some file => e.writeTo file pattern
              | none => e)
          else on e
        | .exchange table =>
          on { e with pattern := e.pattern.map fun c => (table.lookup c).getD c }
        | .print => on (e.emit e.pattern)
        | .printFirst => on (e.emitText (ended (e.pattern.takeWhile (· != '\n'))))
        | .list own => on (e.emitText (listed (own.getD width) e.pattern))
        | .printName => on (e.emitText (ended e.name))
        | .delete => e.flush
        | .deleteFirst =>
          if e.pattern.contains '\n' then
            perform quiet width commands bound 0
              { e.flush with pattern := (e.pattern.dropWhile (· != '\n')).drop 1 }
          else e.flush
        | .empty => on { e with pattern := [] }
        | .next =>
          match (e.finishLine quiet).advance false with
          | some e => on e
          | none => { e.finishLine quiet with done := true }
        | .appendNext =>
          match e.flush.advance true with
          | some e => on e
          | none => { e.finishLine quiet with done := true }
        | .hold => on { e with held := e.pattern, isHeldEnded := e.isEnded }
        | .appendHold => on { e with held := e.held ++ '\n' :: e.pattern }
        | .get => on { e with pattern := e.held, isEnded := e.isHeldEnded }
        | .appendGet =>
          on { e with pattern := e.pattern ++ '\n' :: e.held, isEnded := e.isHeldEnded }
        | .swap => on { e with
            pattern := e.held, held := e.pattern
            isEnded := e.isHeldEnded, isHeldEnded := e.isEnded }
        | .quit status prints => { e.finishLine (quiet || !prints) with done := true, status }
        | .lineNumber => on (e.emitText (ended (decimal e.number)))
        | .append text => on { e with queue := e.queue ++ [text] }
        | .insert text => on (e.emitText text)
        | .change text =>
          let isOpen := e.ranges.any (·.1 == index)
          (if isOpen && !c.negated then e else e.emitText text).flush
        | .read file =>
          match e.files.read (toBytes file) none with
          | .ok bytes => on { e with queue := e.queue ++ [ofBytes bytes] }
          | .error _ => on e
        | .write file => on (e.writeTo file e.pattern)
        | .branch name => jump name e
        | .branchIf name =>
          if e.replaced then jump name { e with replaced := false } else on e
        | .branchUnless name =>
          if e.replaced then on { e with replaced := false } else jump name e

/-- Applies commands to all lines. -/
def run (quiet : Bool) (width : Nat) (commands : List Command) : Nat → Editor → Editor
  | 0, e => e
  | bound + 1, e =>
    if e.done then e
    else match e.advance false with
      | none => e
      | some e =>
        run quiet width commands bound
          (perform quiet width commands 1000000 0 { e with replaced := false })

/-- The files to which commands write. -/
def writtenFiles (commands : List Command) : List Text := commands.filterMap fun c =>
  match c.action with
  | .write file => some file
  | .replace _ _ flags => flags.file
  | _ => none

/-- What commands make of a text that has a name. -/
def ofText (quiet : Bool) (width : Nat) (commands : List Command) (files : Tree)
    (name text : Text) : Editor :=
  let lines := bareLines text
  run quiet width commands (lines.length + 1) {
    left := lines, name, files, ends := text.isEmpty || text.getLast? = some '\n'
    ranges := (commands.zipIdx.filter fun (c, _) => c.first == some (.line 0)).map
      fun (_, i) => (i, none) }

end Editor

end DebugAdapter.Shell.Edit
