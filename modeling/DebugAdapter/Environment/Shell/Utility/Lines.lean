import DebugAdapter.Environment.Shell.Expansion
import DebugAdapter.Environment.Shell.Utility.Basic

/-! # Utilities for lines and characters -/

namespace DebugAdapter.Shell.Utility

open Effect

/-! ## Sorting -/

/-- Which part of a line is compared, and how. -/
structure SortKey where
  start : Nat := 0
  startChar : Nat := 0
  /-- The last field and the number of its characters, zero for all of them. -/
  stop : Option (Nat × Nat) := none
  letters : List Char := []

/-- A field and a character, each counted from one, with letters after them. -/
def position? (text : Text) : Option (Nat × Nat × List Char) := do
  let (ds, rest) := text.span Char.isDigit
  if ds.isEmpty then none
  else
    let (cs, rest) := match rest with
      | '.' :: rest => rest.span Char.isDigit
      | rest => ([], rest)
    some (Arithmetic.ofDigits 10 ds, Arithmetic.ofDigits 10 cs, rest)

def SortKey.ofText? (text : Text) : Option SortKey := do
  let (first, rest) := text.span (· != ',')
  let (start, startChar, letters) ← position? first
  let key : SortKey := { start := start - 1, startChar := startChar - 1, letters }
  match rest with
  | _ :: last => do
    let (stop, stopChar, more) ← position? last
    some { key with stop := some (stop - 1, stopChar), letters := letters ++ more }
  | [] => some key

/-- The fields of a line; without a separator each one starts with its blanks. -/
def fieldsOf (separator : Option Char) (line : Text) : List Text :=
  match separator with
  | some c => (Text.between c line).mapIdx fun i field => if i = 0 then field else c :: field
  | none =>
    let rec split : Bool → Text → List Text
      | _, [] => [[]]
      | inField, c :: rest =>
        let blank := c == ' ' || c == '\t'
        match split (!blank) rest with
        | field :: fields =>
          if blank && inField then [] :: (c :: field) :: fields else (c :: field) :: fields
        | [] => [[c]]
    split false line

/-- The part of a line that a key is about. -/
def SortKey.part (separator : Option Char) (key : SortKey) (line : Text) : Text :=
  let fields := fieldsOf separator line
  let bare (i : Nat) (field : Text) := if separator.isSome && 0 < i then field.drop 1 else field
  let chosen := match key.stop with
    | none => fields.drop key.start
    | some (stop, count) =>
      let fields := fields.take (stop + 1)
      if count = 0 then fields.drop key.start
      else match fields.getLast? with
        | some last =>
          if fields.length = stop + 1 then
            (fields.dropLast ++ [last.take (count + (last.length - (bare stop last).length))]).drop
              key.start
          else fields.drop key.start
        | none => []
  match chosen with
  | first :: rest =>
    let first := bare key.start first
    let first := if key.letters.contains 'b' then first.dropWhile isSpace else first
    (first ++ rest.flatten).drop key.startChar
  | [] => []

/-- The number at the start of a text: its value in units of the last of so many places. -/
def leadingNumber (text : Text) : Int × Nat :=
  let text := text.dropWhile isSpace
  let negative := text.head? = some '-'
  let (whole, rest) := (if negative then text.drop 1 else text).span Char.isDigit
  let places := match rest with
    | '.' :: rest => rest.takeWhile Char.isDigit
    | _ => []
  let n : Int := Arithmetic.ofDigits 10 (whole ++ places)
  (if negative then -n else n, places.length)

/-- How two texts compare by the letters of a key. -/
def compareBy (letters : List Char) (a b : Text) : Ordering :=
  let folded (text : Text) : Text :=
    let text := if letters.contains 'd' then
        text.filter fun c => c.isAlphanum || c == ' ' || c == '\t' else text
    if letters.contains 'f' then text.map Char.toUpper else text
  let order := if letters.contains 'n' || letters.contains 'g' then
      let (x, p) := leadingNumber a
      let (y, q) := leadingNumber b
      compare (x * 10 ^ q) (y * 10 ^ p)
    else compareOfLessAndEq (folded a) (folded b)
  if letters.contains 'r' then order.swap else order

/-- How two lines compare by some keys. -/
def compareLines (separator : Option Char) (keys : List SortKey) (a b : Text) : Ordering :=
  keys.foldl (fun order key =>
    order.then (compareBy key.letters (key.part separator a) (key.part separator b))) .eq

/-- Lines of which only the first of several equal ones is there. -/
def distinct (same : Text → Text → Bool) : List Text → List Text
  | a :: b :: rest =>
    if same a b then distinct same (a :: rest) else a :: distinct same (b :: rest)
  | lines => lines
termination_by lines => lines.length

/-- The lines of files in order. -/
def sort : Utility := fun name args =>
  withOptions name 2 "bdfgnrusCchiMVz" "kto" args fun options files => do
    finish 0
    let error (file : Text) (e : IoError) : Text :=
      if e = .system .isDirectory then "read failed: ".toList ++ file ++ ": ".toList ++ errorText e
      else "cannot read: ".toList ++ shownName file ++ ": ".toList ++ errorText e
    let text ← joined name 2 error files
    if (← get).status = 0 then
      let letters := options.map (·.1)
      let order := letters.filter fun c => "bdfgnr".contains c
      let separator := (options.last? 't').bind (·.head?)
      let given := (options.filter (·.1 == 'k')).filterMap fun o => SortKey.ofText? o.2
      let keys : List SortKey := if given.isEmpty then [{ letters := order }]
        else given.map fun key => if key.letters.isEmpty then { key with letters := order } else key
      let compared := compareLines separator keys
      let last (a b : Text) : Ordering :=
        let whole := compareOfLessAndEq a b
        if letters.contains 'r' then whole.swap else whole
      let isStable := letters.contains 's' || letters.contains 'u'
      let full (a b : Text) : Ordering :=
        (compared a b).then (if isStable then .eq else last a b)
      let lines := bareLines text
      if letters.contains 'c' then
        let rec firstWrong : Nat → List Text → Option (Nat × Text)
          | i, a :: b :: rest =>
            let order := compared a b
            if order == .gt || letters.contains 'u' && order == .eq then some (i + 1, b)
            else firstWrong (i + 1) (b :: rest)
          | _, _ => none
        match firstWrong 1 lines with
        | some (i, line) => stop name 1 ((files.headD ['-']) ++ ':' :: decimal i ++
            ": disorder: ".toList ++ line)
        | none => pure ()
      else
        let sorted := lines.mergeSort fun a b => full a b != .gt
        let sorted := if letters.contains 'u' then distinct (fun a b => compared a b == .eq) sorted
          else sorted
        let text := sorted.flatMap ended
        match options.last? 'o' with
        | none => put name text
        | some file =>
          match (← get).files.write (toBytes file) (toBytes text) false with
          | .ok files => modify ({ · with files })
          | .error e => stop name 2 ("open failed: ".toList ++ file ++ ": ".toList ++ errorText e)

/-- Runs of equal lines, with their lengths. -/
def runs (same : Text → Text → Bool) : List Text → List (Nat × Text)
  | [] => []
  | line :: rest =>
    match runs same rest with
    | (n, other) :: more =>
      if same line other then (n + 1, line) :: more else (1, line) :: (n, other) :: more
    | [] => [(1, line)]

/-- Lines of which only one is there where several equal ones follow each other. -/
def uniq : Utility := fun name args =>
  withOptions name 1 "cdui" "fsw" args fun options files => do
    finish 0
    match ← contents (files.headD ['-']) none with
    | .error e => stop name 1 (plainError (files.headD []) e)
    | .ok text =>
      let key (line : Text) := if options.has 'i' then line.map Char.toUpper else line
      let found := runs (fun a b => key a == key b) (bareLines text)
      let wanted := found.filter fun (n, _) =>
        if options.has 'd' then 1 < n else if options.has 'u' then n = 1 else true
      put name (wanted.flatMap fun (n, line) =>
        ended (if options.has 'c' then padded 7 (decimal n) ++ ' ' :: line else line))

/-! ## Columns -/

/-- The ranges of a list such as `1,3-5,7-`. -/
def rangeList? (text : Text) : Option (List (Nat × Option Nat)) :=
  (Text.between ',' text).mapM fun part => do
    let number (t : Text) : Option Nat := if t.isEmpty then some 1 else Arithmetic.natural? t
    match part.span (· != '-') with
    | (first, []) => do
      let n ← Arithmetic.natural? first
      some (n, some n)
    | (first, _ :: last) =>
      if first.isEmpty && last.isEmpty then none
      else do
        let n ← number first
        if last.isEmpty then some (n, none) else do some (n, some (← Arithmetic.natural? last))

def inRanges (ranges : List (Nat × Option Nat)) (n : Nat) : Bool :=
  ranges.any fun (first, last) => decide (first ≤ n) && (last.all fun last => decide (n ≤ last))

/-- Some characters or fields of every line. -/
def cut : Utility := fun name args =>
  withOptions name 1 "sn" "dfcb" args fun options files => do
    finish 0
    let chosen := options.find? fun o => "fcb".contains o.1
    match chosen with
    | none => misused name 1 "you must specify a list of bytes, characters, or fields".toList
    | some (letter, list) =>
      let isField := letter = 'f'
      match rangeList? list with
      | none =>
        misused name 1 ((if isField then "invalid field value " else
          "invalid byte/character position ").toList ++ quoted list)
      | some ranges =>
        if ranges.any (·.1 = 0) then
          misused name 1 ((if isField then "fields" else "byte/character positions").toList ++
            " are numbered from 1".toList)
        else
          let delimiter := (options.last? 'd').getD ['\t']
          if 1 < delimiter.length then
            misused name 1 "the delimiter must be a single character".toList
          else
            let c := delimiter.headD '\x00'
            let kept {α : Type} (parts : List α) : List α :=
              (parts.zipIdx.filter fun (_, i) => inRanges ranges (i + 1)).map (·.1)
            onFiles name 1 plainError files fun _ text =>
              put name ((bareLines text).flatMap fun line =>
                if isField then
                  if line.contains c then ended ([c].intercalate (kept (Text.between c line)))
                  else if options.has 's' then [] else ended line
                else ended (kept line))

/-- Lines of several inputs beside each other. -/
def paste : Utility := fun name args =>
  withOptions name 1 "s" "d" args fun options files => do
    finish 0
    let separators := match options.last? 'd' with
      | some text => (Format.unescaped text).1
      | none => ['\t']
    let separator (i : Nat) : Text := (separators[i % max separators.length 1]?).toList
    let join (parts : List Text) : Text :=
      ended (parts.zipIdx.flatMap fun (part, i) =>
        (if i = 0 then [] else separator (i - 1)) ++ part)
    let files := if files.isEmpty then [['-']] else files
    let ofInput := bareLines (← if files.any isInput then input else pure [])
    let inputs := files.filter isInput
    let mut columns : List (List Text) := []
    let mut seen := 0
    for file in files do
      if isInput file then
        let position := seen
        let every := inputs.length
        columns := columns ++
          [(ofInput.zipIdx.filter fun (_, i) => i % every == position).map (·.1)]
        seen := seen + 1
      else match ← contents file none with
        | .ok text => columns := columns ++ [bareLines text]
        | .error e => stop name 1 (plainError file e)
    if ← isOn then
      if options.has 's' then put name (columns.flatMap join)
      else
        let height := columns.foldl (fun n column => max n column.length) 0
        put name ((List.range height).flatMap fun i =>
          join (columns.map fun column => column.getD i []))

/-- Lines that are not longer than a width. -/
def fold : Utility := fun name args =>
  withOptions name 1 "bs" "w" (spelledOut 'w' args) fun options files => do
    finish 0
    let given := (options.last? 'w').getD "80".toList
    match Arithmetic.natural? given with
    | some (width + 1) =>
      onFiles name 1 plainError files fun _ text =>
        put name ((linesOf text).flatMap fun line =>
          let (body, lineEnd) := if line.getLast? = some '\n' then (line.dropLast, ['\n'])
            else (line, [])
          (body.zipIdx.flatMap fun (c, i) =>
            if 0 < i ∧ i % (width + 1) = 0 then ['\n', c] else [c]) ++ lineEnd)
    | _ => stop name 1 ("invalid number of columns: ".toList ++ quoted given)

/-! ## Characters -/

/-- A character of a set, which may be escaped, and what follows it. -/
def setChar? (text : Text) : Option (Char × Text) :=
  match text with
  | [] => none
  | '\\' :: rest => some ((Format.escape? rest).getD (rest.headD '\\', rest.drop 1))
  | c :: rest => some (c, rest)

/-- The characters that a set names. The first argument bounds their number. -/
def setChars : Nat → Text → Text
  | 0, _ => []
  | bound + 1, text =>
    match Glyph.class? text with
    | some (ranges, rest) =>
      let inRange (n : Nat) := ranges.any fun (a, b) => a.toNat ≤ n && n ≤ b.toNat
      ((List.range 256).filter inRange).map Char.ofNat ++ setChars bound rest
    | none =>
      match setChar? text with
      | none => []
      | some (c, '-' :: rest) =>
        match setChar? rest with
        | some (d, rest) =>
          (List.range (d.toNat + 1 - c.toNat)).map (fun i => Char.ofNat (c.toNat + i)) ++
            setChars bound rest
        | none => c :: setChars bound ['-']
      | some (c, rest) => c :: setChars bound rest

/-- A text with only one of several equal characters of a set. -/
def squeeze (set : Text) : Text → Text
  | a :: b :: rest =>
    if a = b ∧ set.contains a then squeeze set (b :: rest) else a :: squeeze set (b :: rest)
  | text => text

/-- Characters exchanged for others, left out, or squeezed. -/
def tr : Utility := fun name args =>
  -- No word after the first set is an option.
  let (front, words) := args.span fun arg => arg.head? = some '-' && 1 < arg.length
  let (front, words) := if front.contains ['-', '-'] then
      (front.takeWhile (· != ['-', '-']),
        (front.dropWhile (· != ['-', '-'])).drop 1 ++ words)
    else (front, words)
  withOptions name 1 "cCdst" "" front fun options _ => do
    finish 0
    let deletes := options.has 'd'
    let squeezes := options.has 's'
    let complement := options.has 'c' || options.has 'C'
    let needed := if deletes && !squeezes then 1 else if deletes || !squeezes then 2 else 1
    let most := if deletes && !squeezes then 1 else 2
    match words with
    | [] => misused name 1 "missing operand".toList
    | first :: others =>
      if words.length < needed then do
        say name ("missing operand after ".toList ++ quoted first)
        report ((if deletes then
          "Two strings must be given when both deleting and squeezing repeats.\n"
          else "Two strings must be given when translating.\n").toList)
        report ("Try '".toList ++ name ++ " --help' for more information.\n".toList)
        endWith 1
      else if most < words.length then do
        say name ("extra operand ".toList ++ quoted (words.getD most []))
        if most = 1 then
          report "Only one string may be given when deleting without squeezing repeats.\n".toList
        report ("Try '".toList ++ name ++ " --help' for more information.\n".toList)
        endWith 1
      else
        let expand (text : Text) := setChars (text.length + 1) text
        let set := expand first
        let set := if complement then
            ((List.range 256).map Char.ofNat).filter fun c => !set.contains c else set
        let second := others.head?.map expand
        let text ← input
        if deletes then
          let kept := text.filter fun c => !set.contains c
          put name (match second with
            | some second => squeeze second kept
            | none => kept)
        else match second with
          | none => put name (squeeze set text)
          | some second =>
            if second.isEmpty && !set.isEmpty then
              stop name 1 "when not truncating set1, string2 must be non-empty".toList
            else
              let table := ((List.range 256).map fun n =>
                let c := Char.ofNat n
                match (set.zipIdx.filter (·.1 == c)).getLast? with
                | some (_, i) => (second[i]?.or second.getLast?).getD c
                | none => c).toArray
              let mapped := text.map fun c => table.getD c.toNat c
              put name (if squeezes then squeeze second mapped else mapped)

/-- The input, also written to files. -/
def tee : Utility := fun name args =>
  withOptions name 1 "aip" "" args fun options files => do
    finish 0
    let text ← input
    for file in files do
      if file = "/dev/stderr".toList then report text
      else if file = "/dev/stdout".toList then put name text
      else match (← get).files.write (toBytes file) (toBytes text) (options.has 'a') with
        | .ok files => modify ({ · with files })
        | .error e => do
          say name (plainError file e)
          finish 1
    let status := (← get).status
    put name text
    if ← isOn then finish status

end DebugAdapter.Shell.Utility
