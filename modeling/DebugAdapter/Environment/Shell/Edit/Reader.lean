import DebugAdapter.Environment.Shell.Edit.Script
import DebugAdapter.Environment.Shell.Reader

/-! # Reading scripts that edit lines -/

namespace DebugAdapter.Shell.Edit

open Reader (isBlank)

/-- Reads a part of a script, or fails before what is left of it. -/
abbrev ScriptReader (α : Type) := Text → Except (Fault × Text) (α × Text)

def isSpace (c : Char) : Bool := isBlank c || '\n' ≤ c && c ≤ '\r'

/-! ## Texts -/

/-- The text up to a delimiter, in which that one may be escaped, and what follows it. Brackets of
a pattern may hold the delimiter. Without one the text fails that is left. The first argument
bounds the number of steps. -/
def delimited (delimiter : Char) (isPattern : Bool) : Nat → Text → Except Text (Text × Text)
  | 0, rest => .error rest
  | _, [] => .error []
  | bound + 1, c :: rest =>
    let after (part rest : Text) : Except Text (Text × Text) := do
      let (text, rest) ← delimited delimiter isPattern bound rest
      .ok (part ++ text, rest)
    if c = delimiter then .ok ([], rest)
    else match c, rest with
      | '\n', rest => .error ('\n' :: rest)
      | '\\', d :: rest => after (if d = delimiter ∧ d ≠ '&' then [d] else ['\\', d]) rest
      | '[', rest =>
        if isPattern then
          match Glyph.brackets? rest with
          | some (_, left) => after ('[' :: rest.take (rest.length - left.length)) left
          | none => .error (rest.dropWhile (· != '\n'))
        else after ['['] rest
      | c, rest => after [c] rest

/-- The expression that a pattern is, if it is not empty. What is left counts only for an error. -/
def regex? (extended : Bool) (pattern rest : Text) : Except (Fault × Text) (Option Regex) :=
  if pattern.isEmpty then .ok none
  else match Regex.parse extended false pattern with
    | .ok r => .ok (some r)
    | .error fault => .error (.pattern fault, rest)

/-- The parts of what replaces a match. -/
def parts : Text → List Part
  | [] => []
  | '&' :: rest => .group 0 :: parts rest
  | '\\' :: c :: rest =>
    (match c with
      | 'n' => .text ['\n']
      | 't' => .text ['\t']
      | 'U' => .letters .upper false
      | 'L' => .letters .lower false
      | 'E' => .letters .asTheyAre false
      | 'u' => .letters .upper true
      | 'l' => .letters .lower true
      | c => if c.isDigit then .group (c.toNat - 48) else .text [c]) :: parts rest
  | c :: rest => .text [c] :: parts rest

/-- The text of a command that adds some, and what follows it. -/
def addedText : Text → Text × Text
  | '\\' :: c :: rest => let (text, rest) := addedText rest; (c :: text, rest)
  | '\n' :: rest => ([], rest)
  | c :: rest => let (text, rest) := addedText rest; (c :: text, rest)
  | [] => ([], [])

/-- The name of a file, which is the rest of a line. -/
def fileName : ScriptReader Text := fun text =>
  match (text.dropWhile isBlank).span (· != '\n') with
  | ([], rest) => .error (.noFile, rest)
  | (name, rest) => .ok (name, rest)

/-- The name of a label. -/
def label (text : Text) : Text × Text :=
  (text.dropWhile isBlank).span fun c => !isSpace c && c != ';' && c != '\x7d'

/-- A number, if there is one. -/
def number? (text : Text) : Option Nat × Text :=
  match text.span Char.isDigit with
  | ([], rest) => (none, rest)
  | (digits, rest) => (some (Arithmetic.ofDigits 10 digits), rest)

/-- The end of a command. -/
def atEnd {α : Type} (a : α) : ScriptReader α := fun text =>
  match text.dropWhile isBlank with
  | [] => .ok (a, [])
  | c :: rest =>
    if c = '\n' ∨ c = ';' then .ok (a, rest)
    else if c = '\x7d' ∨ c = '#' then .ok (a, c :: rest)
    else .error (.extraCharacters, rest)

/-! ## Addresses -/

/-- The letters after the expression of an address, and whether one says that capital and small
letters are alike. -/
def addressFlags (folds : Bool) : Text → Bool × Text
  | 'I' :: rest => addressFlags true rest
  | 'M' :: rest => addressFlags folds rest
  | ' ' :: rest => addressFlags folds rest
  | rest => (folds, rest)

/-- An address, if there is one. -/
def address? (extended : Bool) : ScriptReader (Option Address) := fun text =>
  let pattern (delimiter : Char) (rest : Text) :
      Except (Fault × Text) (Option Address × Text) := do
    let (pattern, rest) ← (delimited delimiter true (rest.length + 1) rest).mapError
      fun rest => (.openAddress, rest)
    let (folds, rest) := addressFlags false rest
    return (some (.fits (← regex? extended pattern rest) folds), rest)
  match text with
  | '$' :: rest => .ok (some .last, rest)
  | '/' :: rest => pattern '/' rest
  | ['\\'] => .error (.openAddress, [])
  | '\\' :: c :: rest => pattern c rest
  | text =>
    match number? text with
    | (none, text) => .ok (none, text)
    | (some first, '~' :: rest) =>
      let (by_, rest) := number? rest
      .ok (some (.step first (by_.getD 0)), rest)
    | (some n, rest) => .ok (some (.line n), rest)

/-- Where a range ends, after the comma. -/
def rangeEnd (extended : Bool) : ScriptReader RangeEnd := fun text =>
  match text with
  | '+' :: rest =>
    let (n, rest) := number? rest
    .ok (.lines (n.getD 0), rest)
  | '~' :: rest =>
    let (n, rest) := number? rest
    .ok (.multiple (n.getD 0), rest)
  | text => do
    match ← address? extended text with
    | (some a, rest) => .ok (.at_ a, rest)
    | (none, rest) => .error (.unexpectedComma, rest.drop 1)

/-- The addresses in front of a command. -/
def addresses (extended : Bool) : ScriptReader (Option Address × Option RangeEnd) := fun text => do
  match text with
  | '+' :: rest | '~' :: rest => .error (.relativeAddress, rest.dropWhile Char.isDigit)
  | text =>
    match ← address? extended text with
    | (none, rest) => .ok ((none, none), rest)
    | (some first, rest) =>
      let (last, rest) ← match rest.dropWhile isBlank with
        | ',' :: rest => do
          let (last, rest) ← rangeEnd extended (rest.dropWhile isBlank)
          pure (some last, rest)
        | rest => pure (none, rest)
      let rest := rest.dropWhile isBlank
      let fromStart : Bool := match last with
        | some (.at_ (.fits ..)) => true
        | _ => false
      if first = .line 0 && !fromStart then .error (.lineZero, rest.drop 1)
      else .ok ((some first, last), rest)

/-! ## Commands -/

/-- The flags of a replacement. The first argument bounds their number. -/
def flags (f : Flags) : Nat → ScriptReader Flags
  | 0, text => .ok (f, text)
  | bound + 1, text =>
    match text with
    | [] => .ok (f, [])
    | c :: rest =>
      match c with
      | ' ' | 'm' | 'M' | 'e' => flags f bound rest
      | 'i' | 'I' => flags { f with folds := true } bound rest
      | 'p' =>
        if f.prints then .error (.repeatedOption c, rest)
        else flags { f with prints := true } bound rest
      | 'g' =>
        if f.every then .error (.repeatedOption c, rest)
        else flags { f with every := true } bound rest
      | 'w' => do
        let (file, rest) ← fileName rest
        .ok ({ f with file := some file }, rest)
      | '\n' | ';' => .ok (f, rest)
      | '\x7d' | '#' => .ok (f, c :: rest)
      | c =>
        if !c.isDigit then .error (.unknownOption, rest)
        else match f.nth, number? (c :: rest) with
          | some _, _ => .error (.repeatedNumber, rest)
          | none, (some 0, rest) => .error (.zeroNumber, rest)
          | none, (nth, rest) => flags { f with nth } bound rest

/-- A replacement, after its name. -/
def replacement (extended : Bool) : ScriptReader Action
  | [] => .error (.openReplace, [])
  | delimiter :: rest => do
    let text (isPattern : Bool) (rest : Text) : Except (Fault × Text) (Text × Text) :=
      (delimited delimiter isPattern (rest.length + 1) rest).mapError
        fun rest => (.openReplace, rest)
    let (pattern, rest) ← text true rest
    let (new, rest) ← text false rest
    let (flags, rest) ← flags {} (rest.length + 1) rest
    let r ← regex? extended pattern rest
    let parts := parts new
    match parts.findSome? fun
        | .group n => if ((r.map Regex.groups).getD 9) < n then some n else none
        | _ => none with
    | some n => .error (.noReference n, rest)
    | none => .ok (.replace r parts flags, rest)

/-- An exchange of characters, after its name. -/
def exchange : ScriptReader Action
  | [] => .error (.openExchange, [])
  | delimiter :: rest => do
    let text (rest : Text) : Except (Fault × Text) (Text × Text) :=
      (delimited delimiter false (rest.length + 1) rest).mapError
        fun rest => (.openExchange, rest)
    let plain (text : Text) : Text := (parts text).flatMap fun
      | .text text => text
      | .group n => if n = 0 then ['&'] else decimal n
      | .letters .. => []
    let (first, rest) ← text rest
    let (second, rest) ← text rest
    let (first, second) := (plain first, plain second)
    if first.length != second.length then .error (.unequalLengths, rest)
    else atEnd (.exchange (first.zip second)) rest

/-- A command that adds a text, after its name. -/
def added (make : Text → Action) : ScriptReader Action := fun text =>
  match text.dropWhile isBlank with
  | [] => .error (.expectedText, [])
  | ['\\'] => .ok (make [], [])
  | '\\' :: after =>
    let (text, rest) := addedText (match after.dropWhile isBlank with
      | '\n' :: after => after
      | _ => after)
    .ok (make (text ++ ['\n']), rest)
  | text =>
    let (text, rest) := addedText text
    .ok (make (text ++ ['\n']), rest)

/-- The commands that are a letter only. -/
def letterActions : List (Char × Action) :=
  [('=', .lineNumber), ('d', .delete), ('D', .deleteFirst), ('F', .printName), ('g', .get),
    ('G', .appendGet), ('h', .hold), ('H', .appendHold), ('n', .next), ('N', .appendNext),
    ('p', .print), ('P', .printFirst), ('x', .swap), ('z', .empty)]

/-- What a command does. -/
def action (extended : Bool) (opened : Nat) (first : Option Address) (last : Option RangeEnd) :
    ScriptReader Action
  | [] => .error (.missingCommand, [])
  | c :: rest =>
    let quits (prints : Bool) : Except (Fault × Text) (Action × Text) :=
      if last.isSome then .error (.oneAddress, rest)
      else
        let (code, rest) := number? (rest.dropWhile isBlank)
        atEnd (.quit (code.getD 0).toUInt8 prints) rest
    let named (make : Text → Action) : Except (Fault × Text) (Action × Text) :=
      let (name, rest) := label rest
      .ok (make name, rest)
    match letterActions.lookup c with
    | some action => atEnd action rest
    | none =>
      match c with
      | '\x7b' => .ok (.block 0, rest)
      | '\x7d' =>
        if opened = 0 then .error (.unexpectedClose, rest)
        else if first.isSome then .error (.noAddresses "\x60\x7d' doesn't want", rest)
        else atEnd .nothing rest
      | '#' =>
        if first.isSome then .error (.noAddresses "comments don't accept", rest)
        else .ok (.nothing, rest.dropWhile (· != '\n'))
      | 'l' =>
        let (width, rest) := number? (rest.dropWhile isBlank)
        atEnd (.list width) rest
      | 'q' => quits true
      | 'Q' => quits false
      | 'a' => added .append rest
      | 'i' => added .insert rest
      | 'c' => added .change rest
      | 'r' => do
        let (name, rest) ← fileName rest
        .ok (.read name, rest)
      | 'w' => do
        let (name, rest) ← fileName rest
        .ok (.write name, rest)
      | 'b' => named .branch
      | 't' => named .branchIf
      | 'T' => named .branchUnless
      | 'v' => named fun _ => .nothing
      | ':' =>
        if first.isSome then .error (.noAddresses ": doesn't want", rest)
        else
          let (name, rest) := label rest
          if name.isEmpty then .error (.noLabelName, rest) else .ok (.label name, rest)
      | 's' => replacement extended rest
      | 'y' => exchange rest
      | c => .error (.unknownCommand c, rest)

/-- The commands of a script, with the number of blocks that are open; blocks do not know yet
where they end. The first argument bounds their number. -/
def commands (extended : Bool) : (bound opened : Nat) → Text →
    Except (Fault × Text) (List Command)
  | 0, _, _ => .ok []
  | bound + 1, opened, text => do
    match text.dropWhile fun c => isSpace c || c == ';' with
    | [] => .ok []
    | text => do
      let ((first, last), rest) ← addresses extended text
      let negated := rest.head? = some '!'
      let rest := if negated then (rest.drop 1).dropWhile isBlank else rest
      if negated && rest.head? = some '!' then .error (.repeatedNegation, rest.drop 1)
      else
        let closes := rest.head? = some '\x7d'
        let (action, rest) ← action extended opened first last rest
        let opened := match action with
          | .block _ => opened + 1
          | _ => if closes then opened - 1 else opened
        return { first, last, negated, action, closes } ::
          (← commands extended bound opened rest)

/-- The commands of a script, or what is wrong after so many characters. -/
def script (extended : Bool) (text : Text) : Except (Fault × Nat) (List Command) :=
  match commands extended (text.length + 1) 0 text with
  | .error (fault, rest) => .error (fault, text.length - rest.length)
  | .ok commands =>
    (do withPrevious none (← withEnds 0 commands)).mapError fun fault => (fault, 0)

/-- Whether the start of a script says that lines are not printed by themselves. -/
def isQuiet (text : Text) : Bool := ['#', 'n'].isPrefixOf text

end DebugAdapter.Shell.Edit
