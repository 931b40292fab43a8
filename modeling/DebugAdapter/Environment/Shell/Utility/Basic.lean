import DebugAdapter.Environment.Shell.Format
import DebugAdapter.Environment.Shell.Jobs
import DebugAdapter.Environment.Shell.Options
import DebugAdapter.Environment.Shell.Utility.Quoted

/-! # Utilities

A utility is a program that reads its input and some files and writes what it makes of them. It
knows the name by which it was called, and uses it in its messages. -/

namespace DebugAdapter.Shell

/-- What a program does that has a name and gets some arguments. -/
abbrev Utility := (name : Text) → (args : List Text) → Effect Unit

namespace Utility

open Effect

/-! ## Messages -/

/-- Says something. -/
def say (name : Text) (message : Text) : Effect Unit :=
  report (name ++ ": ".toList ++ message ++ ['\n'])

/-- Ends the program because something is wrong. -/
def stop (name : Text) (status : UInt8) (message : Text) : Effect Unit := do
  say name message
  endWith status

/-- Ends the program because it was called in a wrong way. -/
def misused (name : Text) (status : UInt8) (message : Text) : Effect Unit := do
  say name message
  report ("Try '".toList ++ name ++ " --help' for more information.\n".toList)
  endWith status

/-- What is wrong with options. -/
def optionMessage : OptionFault → Text
  | .illegal letter => "invalid option -- '".toList ++ [letter, '\'']
  | .noArgument letter => "option requires an argument -- '".toList ++ [letter, '\'']
  | .unknown word => "unrecognized option '".toList ++ word ++ ['\'']

/-- Goes on with the options and the other arguments, or with what is wrong. -/
def withOptionsOr (fails : OptionFault → Effect Unit) (flags valued : String) (args : List Text)
    (act : Options → List Text → Effect Unit) : Effect Unit :=
  match Options.among flags valued args with
  | .ok (options, rest) => act options rest
  | .error fault => fails fault

/-- Goes on with the options and the other arguments. -/
def withOptions (name : Text) (status : UInt8) (flags valued : String) (args : List Text)
    (act : Options → List Text → Effect Unit) : Effect Unit :=
  withOptionsOr (fun fault => misused name status (optionMessage fault)) flags valued args act

/-! ## Input and output -/

/-- Writes to the output. -/
def put (name : Text) (text : Text) : Effect Unit := do
  match (← write 1 text).failure? with
  | none => pure ()
  | some failure => stop name 1 ("write error: ".toList ++ failure.toList)

/-- All of the input. -/
def input : Effect Text := do
  let text := (← get).input
  modify ({ · with input := [] })
  return text

/-- Whether a name stands for the input. -/
def isInput (file : Text) : Bool :=
  file = ['-'] || file = "/dev/stdin".toList || file = "/dev/fd/0".toList ||
    file = "/proc/self/fd/0".toList

/-- What an error is called in messages. -/
def errorText : IoError → Text
  | .system e => e.text.toList
  | e => e.message.toList

/-- The contents of a file, at most so many bytes if a number is given. -/
def contents (file : Text) (wanted : Option Nat) : Effect (Except IoError Text) := do
  if isInput file then
    let text := (← get).input
    match wanted with
    | none => return .ok (← input)
    | some n => do
      modify ({ · with input := text.drop n })
      return .ok (text.take n)
  else return ((← get).files.read (toBytes file) wanted).map ofBytes

/-- What is said about a file that cannot be read. -/
def plainError (file : Text) (e : IoError) : Text := shownName file ++ ": ".toList ++ errorText e

/-- What is said about a file that cannot be read, whatever it is called. -/
def bareError (file : Text) (e : IoError) : Text := file ++ ": ".toList ++ errorText e

/-- What is said about a file that cannot be opened or read. -/
def openError (file : Text) (e : IoError) : Text :=
  if e = .system .isDirectory then
    "error reading ".toList ++ quotedName file ++ ": ".toList ++ errorText e
  else "cannot open ".toList ++ quotedName file ++ " for reading: ".toList ++ errorText e

/-- Performs an action with one thing after the other as long as the program goes on. -/
def onEach {α : Type} (act : α → Effect Unit) : List α → Effect Unit
  | [] => pure ()
  | a :: rest => do
    act a
    if ← isOn then onEach act rest

/-- Performs an action with the contents of every file; without files it is the input. -/
def onFiles (name : Text) (status : UInt8) (error : Text → IoError → Text) (files : List Text)
    (act : Text → Text → Effect Unit) : Effect Unit :=
  onEach (fun file => do
    match ← contents file none with
    | .ok text => act file text
    | .error e => do
      say name (error file e)
      finish status) (if files.isEmpty then [['-']] else files)

/-- The contents of all files together. -/
def joined (name : Text) (status : UInt8) (error : Text → IoError → Text) (files : List Text) :
    Effect Text := do
  let files := if files.isEmpty then [['-']] else files
  let mut texts := []
  for file in files do
    match ← contents file none with
    | .ok text => texts := texts ++ [text]
    | .error e => do
      say name (error file e)
      finish status
  return texts.flatten

/-- The lines of a text, each with its end. -/
def linesOf : Text → List Text
  | [] => []
  | c :: rest =>
    if c = '\n' then [c] :: linesOf rest
    else match linesOf rest with
      | line :: lines => (c :: line) :: lines
      | [] => [[c]]

/-- The lines of a text without their ends. -/
def bareLines (text : Text) : List Text :=
  (linesOf text).map fun line => if line.getLast? = some '\n' then line.dropLast else line

/-- A line with an end. -/
def ended (line : Text) : Text := line ++ ['\n']

/-- Blanks before a text, up to a width. -/
def padded (width : Nat) (text : Text) : Text := List.replicate (width - text.length) ' ' ++ text

/-! ## Counts -/

/-- The units that may follow a number. -/
def units : List (String × Nat) :=
  [("", 1), ("b", 512), ("kB", 1000), ("k", 1024), ("K", 1024), ("KiB", 1024), ("MB", 1000000),
    ("m", 1048576), ("M", 1048576), ("MiB", 1048576), ("GB", 1000000000), ("G", 1073741824),
    ("GiB", 1073741824), ("TB", 10 ^ 12), ("T", 2 ^ 40), ("TiB", 2 ^ 40), ("PB", 10 ^ 15), ("P", 2 ^ 50),
    ("PiB", 2 ^ 50), ("EB", 10 ^ 18), ("E", 2 ^ 60), ("EiB", 2 ^ 60), ("c", 1), ("w", 2)]

/-- A number and a unit. -/
def amount? (text : Text) : Option Nat := do
  let (digits, unit) := text.span Char.isDigit
  if digits.isEmpty then none
  else some (Arithmetic.ofDigits 10 digits * (← units.lookup (String.ofList unit)))

/-- Arguments in which a number with a minus sign is an option by itself. -/
def spelledOut (letter : Char) (args : List Text) : List Text :=
  match args with
  | ('-' :: d :: ds) :: rest =>
    if d.isDigit then ('-' :: letter :: d :: ds) :: rest else args
  | args => args

/-! ## Parts of a text -/

/-- How much of a text there is, from its start or its end on. -/
structure Extent where
  bytes : Bool
  /-- Whether the number is counted from the other end. -/
  others : Bool
  number : Nat
  deriving DecidableEq, Repr

/-- The extent that options ask for; the sign in front of a number changes where it counts. -/
def extent? (sign : Char) (options : Options) : Except Text Extent :=
  match (options.filter fun o => o.1 == 'c' || o.1 == 'n').getLast? with
  | none => .ok ⟨false, false, 10⟩
  | some (letter, value) =>
    let signed := value.head? = some '-' || value.head? = some '+'
    match amount? (if signed then value.drop 1 else value) with
    | some n => .ok ⟨letter = 'c', value.head? = some sign, n⟩
    | none => .error ("invalid number of ".toList ++
        (if letter = 'c' then "bytes" else "lines").toList ++ ": ".toList ++
        quoted (if value.head? = some '-' then value.drop 1 else value))

/-- Performs an action with every file, under titles if there are several of them. -/
def onTitled (name : Text) (options : Options) (files : List Text) (wanted : Option Nat)
    (act : Text → Effect Unit) : Effect Unit := do
  let files := if files.isEmpty then [['-']] else files
  let titled := options.has 'v' || 1 < files.length && !options.has 'q'
  let rec go (isFirst : Bool) : List Text → Effect Unit
    | [] => pure ()
    | file :: rest => do
      let found ← contents file wanted
      let opened := match found with
        | .ok _ => true
        | .error e => e = .system .isDirectory
      if titled && opened then
        put name ((if isFirst then [] else ['\n']) ++ "==> ".toList ++
          (if file = ['-'] then "standard input".toList else file) ++ " <==\n".toList)
      match found with
      | .ok text => act text
      | .error e => do
        say name (openError file e)
        finish 1
      if ← isOn then go (isFirst && !opened) rest
  go true files

/-- How much is read at once. -/
def blockSize : Nat := 8192

/-- What is left of an input of which some was used, if it was read in blocks. -/
def afterBlocks (used : Nat) (text : Text) : Text :=
  text.drop ((used + blockSize - 1) / blockSize * blockSize)

/-- The start of files. -/
def head : Utility := fun name args =>
  let fails (fault : OptionFault) : Effect Unit :=
    match fault with
    | .illegal c =>
      if c.isDigit then misused name 1 ("invalid trailing option -- ".toList ++ [c])
      else misused name 1 (optionMessage fault)
    | fault => misused name 1 (optionMessage fault)
  withOptionsOr fails "qvz" "nc" (spelledOut 'n' args) fun options files => do
    match extent? '-' options with
    | .error message => stop name 1 message
    | .ok extent => do
      finish 0
      let wanted := if extent.bytes && !extent.others then some extent.number else none
      let ofInput := (← get).input
      onTitled name options files wanted fun text => do
        let lines := linesOf text
        let count (n : Nat) := if extent.others then n - extent.number else extent.number
        let part := if extent.bytes then text.take (count text.length)
          else (lines.take (count lines.length)).flatten
        if files.isEmpty && !extent.bytes && !extent.others then
          modify ({ · with input := afterBlocks part.length ofInput })
        put name part

/-- The end of files. -/
def tail : Utility := fun name args =>
  let isShort : Bool := match args with
    | [_] | [_, ['-']] | [_, ['-', '-'], _] => true
    | [_, file] => file.head? != some '-'
    | _ => false
  let args := match isShort, args with
    | true, ('+' :: d :: ds) :: rest =>
      if d.isDigit then "-n".toList :: ('+' :: d :: ds) :: rest else args
    | true, args => spelledOut 'n' args
    | _, args => args
  let fails (fault : OptionFault) : Effect Unit :=
    match fault with
    | .illegal c =>
      if c.isDigit then stop name 1 ("option used in invalid context -- ".toList ++ [c])
      else misused name 1 (optionMessage fault)
    | fault => misused name 1 (optionMessage fault)
  withOptionsOr fails "qvz" "nc" args fun options files => do
    match extent? '+' options with
    | .error message => stop name 1 message
    | .ok extent => do
      finish 0
      onTitled name options files none fun text => do
        let lines := linesOf text
        let skipped (n : Nat) := if extent.others then extent.number - 1 else n - extent.number
        put name (if extent.bytes then text.drop (skipped text.length)
          else (lines.drop (skipped lines.length)).flatten)

/-! ## Whole files -/

/-- A byte, printed in a way that can be seen. -/
def visible (tabs : Bool) (c : Char) : Text :=
  let low (n : Nat) : Text :=
    if n < 32 then ['^', Char.ofNat (n + 64)] else if n = 127 then ['^', '?'] else [Char.ofNat n]
  if c = '\n' ∨ c = '\t' ∧ !tabs then [c]
  else if c.toNat < 128 then low c.toNat
  else 'M' :: '-' :: low (c.toNat - 128)

/-- The lines of a text with numbers, of which the next one is given. -/
def numbered (skipsEmpty : Bool) : Nat → List Text → List Text
  | _, [] => []
  | n, line :: rest =>
    if skipsEmpty && line = ['\n'] then line :: numbered skipsEmpty n rest
    else (padded 6 (decimal n) ++ '\t' :: line) :: numbered skipsEmpty (n + 1) rest

/-- Lines of which only one is empty where several were. -/
def squeezed : List Text → List Text
  | ['\n'] :: ['\n'] :: rest => squeezed (['\n'] :: rest)
  | line :: rest => line :: squeezed rest
  | [] => []

/-- Files, one after the other. -/
def cat : Utility := fun name args =>
  withOptions name 1 "AbeEnstTuv" "" args fun options files => do
    finish 0
    let has (letters : String) := letters.toList.any options.has
    let isPlain := options.all fun o => o.1 == 'u'
    if isPlain then onFiles name 1 plainError files fun _ text => put name text
    else do
      let text ← joined name 1 plainError files
      let lines := linesOf text
      let lines := if options.has 's' then squeezed lines else lines
      let show_ (line : Text) : Text :=
        let shown := if has "Aetv" || has "ET" then
            line.flatMap fun c =>
              if c = '\t' then (if has "AtT" then ['^', 'I'] else [c])
              else if c = '\n' then (if has "AeE" then ['$', c] else [c])
              else if has "Aetv" then visible false c else [c]
          else line
        shown
      let lines := if has "nb" then numbered (options.has 'b') 1 lines else lines
      put name (lines.flatMap fun line => match line.span (· != '\t') with
        | (before, c :: rest) =>
          if has "nb" then before ++ c :: show_ rest else show_ line
        | _ => show_ line)

/-- Files, the lines of each one backwards. -/
def tac : Utility := fun name args =>
  withOptions name 1 "b" "" args fun _ files => do
    finish 0
    let error (file : Text) (e : IoError) : Text :=
      if e = .system .isDirectory then
        shownName file ++ ": read error: ".toList ++ errorText e
      else "failed to open ".toList ++ quotedName file ++ " for reading: ".toList ++ errorText e
    onFiles name 1 error files fun _ text => put name (linesOf text).reverse.flatten

/-- Files, every line backwards. -/
def rev : Utility := fun name args =>
  withOptions name 1 "" "" args fun _ files => do
    finish 0
    let error (file : Text) (e : IoError) : Text := "cannot open ".toList ++ file ++ ": ".toList ++ errorText e
    onFiles name 1 error files fun _ text =>
      put name ((linesOf text).flatMap fun line =>
        if line.getLast? = some '\n' then ended line.dropLast.reverse else line.reverse)

/-- Files with numbered lines. -/
def nl : Utility := fun name args =>
  withOptions name 1 "p" "bswnhfvi" args fun options files => do
    finish 0
    let text ← joined name 1 plainError files
    let width := ((options.last? 'w').bind Arithmetic.natural?).getD 6
    let separator := (options.last? 's').getD ['\t']
    let all := options.last? 'b' == some ['a']
    let rec number : Nat → List Text → List Text
      | _, [] => []
      | n, line :: rest =>
        if !all && line.isEmpty then
          ended (List.replicate (width + separator.length) ' ') :: number n rest
        else ended (padded width (decimal n) ++ separator ++ line) :: number (n + 1) rest
    put name (number 1 (bareLines text)).flatten

/-! ## Counting -/

def isSpace (c : Char) : Bool := c == ' ' || '\t' ≤ c && c ≤ '\r'

/-- How many words there are. -/
def wordCount (inWord : Bool) : Text → Nat
  | [] => 0
  | c :: rest =>
    if isSpace c then wordCount false rest
    else (if inWord then 0 else 1) + wordCount true rest

/-- The numbers of lines, words and bytes, and the length of the longest line. -/
def wcCounts (text : Text) : List Nat :=
  [text.count '\n', wordCount false text, text.length,
    (bareLines text).foldl (fun n line => max n line.length) 0]

/-- Counts lines, words and bytes. -/
def wc : Utility := fun name args =>
  withOptions name 1 "lwcmL" "" args fun options files => do
    finish 0
    let wanted (i : Nat) : Bool := if options.isEmpty then i < 3
      else match i with
        | 0 => options.has 'l'
        | 1 => options.has 'w'
        | 2 => options.has 'c' || options.has 'm'
        | _ => options.has 'L'
    let chosen (counts : List Nat) := (counts.zipIdx.filter fun (_, i) => wanted i).map (·.1)
    let s ← get
    let size (file : Text) : Nat := match s.files.find (toBytes file) with
      | .ok (.file text _) => text.length
      | _ => 0
    let isRegular (file : Text) : Bool := !isInput file && match s.files.find (toBytes file) with
      | .ok (.file ..) => true
      | .error _ => true
      | _ => false
    let single := (chosen [0, 0, 0, 0]).length = 1
    let width := if files.isEmpty then (if single then 1 else 7)
      else if files.length = 1 && single then 1
      else max (decimal (total (files.map size))).length
        (if files.all isRegular then 1 else 7)
    let show_ (counts : List Nat) (file : Text) : Text :=
      ended ([' '].intercalate ((chosen counts).map fun (n : Nat) => padded width (decimal n)) ++
        if file.isEmpty then [] else ' ' :: file)
    let mut total := [0, 0, 0, 0]
    for file in (if files.isEmpty then [[]] else files) do
      match ← contents (if file.isEmpty then ['-'] else file) none with
      | .ok text => do
        let counts := wcCounts text
        total := total.zipWith (· + ·) counts
        put name (show_ counts file)
      | .error e => do
        say name (plainError file e)
        if e = .system .isDirectory then put name (show_ [0, 0, 0, 0] file)
        finish 1
    if 1 < files.length then put name (show_ total "total".toList)

/-! ## Numbers -/

/-- A decimal number as digits and the number of places after the point. -/
def decimal? (text : Text) : Option (Int × Nat) :=
  let negative := text.head? = some '-'
  let (whole, rest) := (if negative || text.head? = some '+' then text.drop 1 else text).span
    Char.isDigit
  let (places, rest) := match rest with
    | '.' :: rest => rest.span Char.isDigit
    | rest => ([], rest)
  let power? : Option Int := match rest with
    | [] => some 0
    | e :: rest => if e = 'e' ∨ e = 'E' then Arithmetic.decimal? rest else none
  match power? with
  | none => none
  | some power =>
    if whole.isEmpty && places.isEmpty then none
    else
      let n : Int := Arithmetic.ofDigits 10 (whole ++ places)
      let n := if negative then -n else n
      some (n * 10 ^ (power - places.length).toNat, (places.length - power).toNat)

/-- A number of so many units of the last place. -/
def withPlaces (places : Nat) (n : Int) : Text :=
  (if n < 0 then ['-'] else []) ++ Format.fixed places false n.natAbs (10 ^ places)

/-- Numbers in order. -/
def seq : Utility := fun name args =>
  -- Negative numbers are no options.
  let isNumber (arg : Text) := (decimal? arg).isSome
  let (front, numbers) := args.span fun arg => arg.head? = some '-' && !isNumber arg
  let (front, numbers) := match front.getLast?, numbers with
    | some ['-', c], value :: rest =>
      if c = 's' ∨ c = 'f' then (front ++ [value], rest) else (front, numbers)
    | _, _ => (front, numbers)
  withOptions name 1 "w" "sf" front fun options rest => do
    finish 0
    let numbers := rest ++ numbers
    match numbers[3]?, numbers.find? (!isNumber ·) with
    | some extra, _ => misused name 1 ("extra operand ".toList ++ quoted extra)
    | none, some arg => misused name 1 ("invalid floating point argument: ".toList ++ quoted arg)
    | none, none =>
      let values := numbers.filterMap decimal?
      let run (first step last : Int × Nat) : Effect Unit := do
        let places := max first.2 step.2
        let depth := max places last.2
        let scaled (v : Int × Nat) : Int := v.1 * 10 ^ (depth - v.2)
        let (a, d, z) := (scaled first, scaled step, scaled last)
        if d = 0 then misused name 1 ("invalid Zero increment value: ".toList ++
          quoted (numbers.getD 1 []))
        else
          let amount := if (0 < d && z < a) || (d < 0 && a < z) then 0 else ((z - a).tdiv d + 1).toNat
          let texts := (List.range amount).map fun (i : Nat) =>
            withPlaces places ((a + d * i).tdiv (10 ^ (depth - places)))
          let texts := match options.last? 'f' with
            | some format => texts.map fun text => (Format.printf format [text]).output
            | none => texts
          let width := texts.foldl (fun n t => max n t.length) 0
          let texts := if options.has 'w' then texts.map fun text => match text with
              | '-' :: ds => '-' :: List.replicate (width - text.length) '0' ++ ds
              | ds => List.replicate (width - text.length) '0' ++ ds
            else texts
          if !texts.isEmpty then
            put name (ended (((options.last? 's').getD ['\n']).intercalate texts))
      match values with
      | [] => misused name 1 "missing operand".toList
      | [last] => run (1, 0) (1, 0) last
      | [first, last] => run first (1, 0) last
      | first :: step :: last :: _ => run first step last

/-! ## Names of files -/

/-- A path without slashes at its end; a path of slashes only is one slash. -/
def withoutSlashes (path : Text) : Text :=
  let kept := (path.reverse.dropWhile (· == '/')).reverse
  if kept.isEmpty && !path.isEmpty then ['/'] else kept

/-- The last name in a path. -/
def lastName (path : Text) : Text :=
  let path := withoutSlashes path
  if path = ['/'] then path else (path.reverse.takeWhile (· != '/')).reverse

/-- A path without its last name. -/
def parent (path : Text) : Text :=
  let path := withoutSlashes path
  if path = ['/'] then path
  else match path.reverse.dropWhile (· != '/') with
    | [] => ['.']
    | rest => withoutSlashes rest.reverse

/-- A name without an ending, unless it is nothing else. -/
def withoutEnding (ending text : Text) : Text :=
  if ending.length < text.length && ending.isSuffixOf text then
    text.take (text.length - ending.length)
  else text

def basename : Utility := fun name args =>
  withOptions name 1 "az" "s" args fun options args => do
    finish 0
    match args with
    | [] => misused name 1 "missing operand".toList
    | path :: rest =>
      if options.has 'a' || options.has 's' then
        put name (args.flatMap fun path =>
          ended (withoutEnding ((options.last? 's').getD []) (lastName path)))
      else match rest with
        | [] => put name (ended (lastName path))
        | [ending] => put name (ended (withoutEnding ending (lastName path)))
        | _ :: extra :: _ => misused name 1 ("extra operand ".toList ++ quoted extra)

def dirname : Utility := fun name args =>
  withOptions name 1 "z" "" args fun _ args => do
    finish 0
    if args.isEmpty then misused name 1 "missing operand".toList
    else put name (args.flatMap fun path => ended (parent path))

/-! ## Time -/

/-- How many milliseconds a duration is. -/
def duration? (arg : Text) : Option Nat := do
  let unit? : Option (Nat × Text) := match arg.getLast? with
    | some 's' => some (1, arg.dropLast)
    | some 'm' => some (60, arg.dropLast)
    | some 'h' => some (3600, arg.dropLast)
    | some 'd' => some (86400, arg.dropLast)
    | _ => some (1, arg)
  let (unit, number) ← unit?
  if number = "infinity".toList ∨ number = "inf".toList then some 1000000000000
  else do
    let (n, places) ← decimal? number
    if n < 0 then none else some (n.toNat * unit * 1000 / 10 ^ places)

def sleep (bound : Nat) : Utility := fun name args =>
  withOptions name 1 "" "" args fun _ args => do
    finish 0
    match args with
    | [] => misused name 1 "missing operand".toList
    | args =>
      match args.find? fun arg => (duration? arg).isNone with
      | some wrong => misused name 1 ("invalid time interval ".toList ++ quoted wrong)
      | none => elapse (fun _ => false) bound (some (total (args.filterMap duration?)))

/-! ## Repetition -/

/-- Writes the same line until nobody reads it. -/
def repeatLine (name line : Text) : Nat → Effect Unit
  | 0 => exhausted
  | bound + 1 => do
    put name line
    if ← isOn then repeatLine name line bound

def yes (bound : Nat) : Utility := fun name args => do
  let line := ended (spaced (if args.isEmpty then [['y']] else args))
  let times := blockSize / line.length + 1
  repeatLine name (List.replicate times line).flatten bound

end Utility

end DebugAdapter.Shell
