import DebugAdapter.Environment.Shell.Utility.Basic

/-! # Utilities for files and bytes -/

namespace DebugAdapter.Shell.Utility

open Effect
open Files (Name Node Tree)

/-! ## Trees of files -/

/-- The place where a path leads if its last name is not followed as a link. -/
def nameAt (tree : Tree) (path : Text) : Except IoError (List Name) := do
  let place ← tree.locate (toBytes (parent path))
  let name := lastName path
  if name = ['.'] ∨ name = ['.', '.'] ∨ name = ['/'] then tree.locate (toBytes path)
  else if tree.node? place = some .directory then .ok (place ++ [toBytes name])
  else .error (.system (if (tree.node? place).isSome then .notDirectory else .noEntry))

/-- What there is where a path leads, if its last name is not followed as a link. -/
def nodeAt (tree : Tree) (path : Text) : Except IoError (List Name × Node) := do
  let place ← nameAt tree path
  match tree.node? place with
  | some node => .ok (place, node)
  | none => .error (.system .noEntry)

def setFiles (files : Tree) : Effect Unit := modify ({ · with files })

/-- Whether a text is the end of an error about a file; it says so and goes on. -/
def unable (name : Text) (doing : String) (file : Text) (why : Text) : Effect Unit := do
  say name (doing.toList ++ ' ' :: quotedName file ++ ": ".toList ++ why)
  finish 1

def rm : Utility := fun name args =>
  withOptions name 1 "frRidvI" "" args fun options files => do
    finish 0
    if files.isEmpty && !options.has 'f' then misused name 1 "missing operand".toList
    else onEach (fun file => do
      let tree := (← get).files
      match nodeAt tree file with
      | .error e =>
        if !(options.has 'f' && (e = .system .noEntry || e = .system .notDirectory)) then
          unable name "cannot remove" file (errorText e)
      | .ok (place, node) =>
        let whole := options.has 'r' || options.has 'R'
        if node = .directory && !whole && !(options.has 'd' && (tree.below place).isEmpty) then
          unable name "cannot remove" file "Is a directory".toList
        else setFiles (tree.remove place)) files

def mkdir : Utility := fun name args =>
  withOptions name 1 "pv" "m" args fun options files => do
    finish 0
    if files.isEmpty then misused name 1 "missing operand".toList
    else onEach (fun file => do
      let tree := (← get).files
      if options.has 'p' then
        match tree.locate (toBytes file) with
        | .ok place =>
          match tree.node? place with
          | some .directory => pure ()
          | some _ => unable name "cannot create directory" file "File exists".toList
          | none => setFiles (tree.put place .directory)
        | .error (.system .noEntry) =>
          let start := if file.head? = some '/' then [] else tree.here
          setFiles (tree.put (start ++ (Tree.names (toBytes file)).filter (!·.isEmpty)) .directory)
        | .error e => unable name "cannot create directory" file (errorText e)
      else match nameAt tree file with
        | .error e => unable name "cannot create directory" file (errorText e)
        | .ok place =>
          if (tree.node? place).isSome then
            unable name "cannot create directory" file "File exists".toList
          else setFiles (tree.put place .directory)) files

def rmdir : Utility := fun name args =>
  withOptions name 1 "pv" "" args fun _ files => do
    finish 0
    if files.isEmpty then misused name 1 "missing operand".toList
    else onEach (fun file => do
      let tree := (← get).files
      match nodeAt tree file with
      | .error e => unable name "failed to remove" file (errorText e)
      | .ok (place, node) =>
        if node != .directory then unable name "failed to remove" file "Not a directory".toList
        else if !(tree.below place).isEmpty then
          unable name "failed to remove" file "Directory not empty".toList
        else setFiles (tree.remove place)) files

def touch : Utility := fun name args =>
  withOptions name 1 "acmfh" "drt" args fun options files => do
    finish 0
    if files.isEmpty then misused name 1 "missing file operand".toList
    else onEach (fun file => do
      let tree := (← get).files
      match tree.find (toBytes file) with
      | .ok _ => pure ()
      | .error (.system .noEntry) =>
        if !options.has 'c' then
          match tree.write (toBytes file) [] false with
          | .ok files => setFiles files
          | .error e => unable name "cannot touch" file (errorText e)
      | .error e => unable name "cannot touch" file (errorText e)) files

/-- Where a file goes that is copied or moved somewhere. -/
def destination (tree : Tree) (source target : Text) : Text :=
  match tree.find (toBytes target) with
  | .ok .directory => target ++ '/' :: lastName source
  | _ => target

/-- The sources and the target among some arguments. -/
def withTarget (name : Text) (files : List Text) (act : List Text → Text → Effect Unit) :
    Effect Unit := do
  match files, files.getLast? with
  | [], _ | _, none => misused name 1 "missing file operand".toList
  | [file], _ => misused name 1 ("missing destination file operand after ".toList ++ quotedName file)
  | files, some target =>
    let isDirectory := match (← get).files.find (toBytes target) with
      | .ok .directory => true
      | _ => false
    if 2 < files.length && !isDirectory then
      stop name 1 ("target ".toList ++ quotedName target ++ ": No such file or directory".toList)
    else act files.dropLast target

/-- A tree in which everything at a place is also at another one. -/
def copied (tree : Tree) (source target : List Name) : Tree :=
  (tree.entries.filter fun e => source.isPrefixOf e.1).foldl
    (fun tree e => tree.put (target ++ e.1.drop source.length) e.2) tree

def cp : Utility := fun name args =>
  withOptions name 1 "rRapfvdi" "" args fun options files => do
    finish 0
    withTarget name files fun sources target =>
      onEach (fun source => do
        let tree := (← get).files
        match tree.find (toBytes source) with
        | .error e => unable name "cannot stat" source (errorText e)
        | .ok .directory =>
          if !(options.has 'r' || options.has 'R' || options.has 'a') then do
            say name ("-r not specified; omitting directory ".toList ++ quotedName source)
            finish 1
          else match tree.locate (toBytes source),
              tree.locate (toBytes (destination tree source target)) with
            | .ok from_, .ok to_ => setFiles ((copied tree from_ to_).put to_ .directory)
            | _, .error e => unable name "cannot create directory" target (errorText e)
            | .error e, _ => unable name "cannot stat" source (errorText e)
        | .ok node =>
          let path := destination tree source target
          match node.contents none with
          | .error _ => pure ()
          | .ok bytes =>
            match tree.write (toBytes path) bytes false with
            | .ok files =>
              let runs := match node with
                | .file _ runs => runs
                | _ => false
              let place := (files.locate (toBytes path)).toOption.getD []
              let isNew := match tree.find (toBytes path) with
                | .ok _ => false
                | .error _ => true
              setFiles (if runs && isNew then files.put place (.file bytes true) else files)
            | .error e => unable name "cannot create regular file" path (errorText e)) sources

def mv : Utility := fun name args =>
  withOptions name 1 "fivn" "" args fun _ files => do
    finish 0
    withTarget name files fun sources target =>
      onEach (fun source => do
        let tree := (← get).files
        match nodeAt tree source with
        | .error e => unable name "cannot stat" source (errorText e)
        | .ok (place, node) =>
          let path := destination tree source target
          match tree.locate (toBytes path) with
          | .error e => do
            say name ("cannot move ".toList ++ quotedName source ++ " to ".toList ++ quotedName path ++
              ": ".toList ++ errorText e)
            finish 1
          | .ok to_ =>
            let moved := copied (tree.remove to_) place to_
            setFiles (if place = to_ then tree
              else (if node = .directory then moved.put to_ node else moved).remove place)) sources

/-- Whether files may be run after a change of their permissions. -/
def runsAfter? (mode : Text) : Option (Bool → Bool) :=
  if !mode.isEmpty && mode.all Format.isOctal then
    let n := Arithmetic.ofDigits 8 mode
    some fun _ => n % 2 = 1 || n / 8 % 2 = 1 || n / 64 % 2 = 1
  else
    let rest := mode.dropWhile fun c => "ugoa".contains c
    match rest with
    | sign :: letters =>
      if "+-=".contains sign && letters.all fun c => "rwxXst".contains c then
        let x := letters.contains 'x'
        some fun before =>
          if sign = '+' then before || x else if sign = '-' then before && !x else x
      else none
    | [] => none

def chmod : Utility := fun name args => do
  let args := args.filter fun arg => arg != "-R".toList && arg != ['-', '-'] && arg != "-v".toList
  finish 0
  match args with
  | [] => misused name 1 "missing operand".toList
  | [mode] => misused name 1 ("missing operand after ".toList ++ quoted mode)
  | mode :: files =>
    match runsAfter? mode with
    | none => misused name 1 ("invalid mode: ".toList ++ quoted mode)
    | some runs => onEach (fun file => do
      let tree := (← get).files
      match tree.locate (toBytes file), tree.find (toBytes file) with
      | .ok place, .ok (.file bytes before) => setFiles (tree.put place (.file bytes (runs before)))
      | _, .ok _ => pure ()
      | _, .error e => unable name "cannot access" file (errorText e)) files

def ln : Utility := fun name args =>
  withOptions name 1 "sfvnr" "" args fun options files => do
    finish 0
    match files with
    | [] => misused name 1 "missing file operand".toList
    | source :: rest => do
      let tree := (← get).files
      let path := destination tree source (rest.headD (lastName source))
      match nameAt tree path with
      | .error e => do
        say name ("failed to create ".toList ++ (if options.has 's' then "symbolic" else "hard").toList ++
          " link ".toList ++ quotedName path ++ ": ".toList ++ errorText e)
        finish 1
      | .ok place =>
        if (tree.node? place).isSome && !options.has 'f' then do
          say name ("failed to create ".toList ++
            (if options.has 's' then "symbolic" else "hard").toList ++ " link ".toList ++
            quotedName path ++ ": File exists".toList)
          finish 1
        else if options.has 's' then
          let start := if source.head? = some '/' then [] else place.dropLast
          setFiles (tree.put place (.link (start ++ Tree.names (toBytes source))))
        else match nodeAt tree source with
          | .ok (_, node) => setFiles (tree.put place node)
          | .error e => do
            say name ("failed to access ".toList ++ quotedName source ++ ": ".toList ++ errorText e)
            finish 1

/-- The names in directories. -/
def ls : Utility := fun name args =>
  withOptions name 2 "1aAdrpFCxUStRL" "" args fun options files => do
    finish 0
    let tree := (← get).files
    let operands := if files.isEmpty then [['.']] else files
    let ordered := operands.mergeSort notAfter
    let mut plain := []
    let mut directories := []
    for file in ordered do
      match tree.find (toBytes file) with
      | .error e => do
        say name ("cannot access ".toList ++ quotedName file ++ ": ".toList ++ errorText e)
        finish 2
      | .ok node =>
        if node = .directory && !options.has 'd' then directories := directories ++ [file]
        else plain := plain ++ [file]
    let turned (names : List Text) := if options.has 'r' then names.reverse else names
    let lines (names : List Text) := (turned names).flatMap ended
    let listed (file : Text) : Text :=
      let names := match tree.locate (toBytes file) with
        | .ok place => (tree.below place).map ofBytes
        | .error _ => []
      lines (if options.has 'a' then ['.'] :: ['.', '.'] :: names
        else if options.has 'A' then names else names.filter (·.head? != some '.'))
    let titled := 1 < operands.length
    let blocks := (if plain.isEmpty then [] else [lines plain]) ++
      (turned directories).map fun file =>
        (if titled then file ++ [':', '\n'] else []) ++ listed file
    let status := (← get).status
    put name (['\n'].intercalate blocks)
    if ← isOn then finish status

def readlink : Utility := fun name args =>
  withOptions name 1 "fenmsvqz" "" args fun options files => do
    finish 0
    if files.isEmpty then misused name 1 "missing operand".toList
    else onEach (fun file => do
      let tree := (← get).files
      if options.has 'f' || options.has 'e' || options.has 'm' then
        match tree.locate (toBytes file) with
        | .ok place => put name (ended ('/' :: ofBytes ([0x2F].intercalate place)))
        | .error _ => finish 1
      else match nodeAt tree file with
        | .ok (_, .link target) => put name (ended (ofBytes ([0x2F].intercalate target)))
        | _ => finish 1) files

def realpath : Utility := fun name args =>
  withOptions name 1 "ems" "" args fun _ files => do
    finish 0
    if files.isEmpty then misused name 1 "missing operand".toList
    else onEach (fun file => do
      match (← get).files.locate (toBytes file) with
      | .ok place => put name (ended ('/' :: ofBytes ([0x2F].intercalate place)))
      | .error e => do
        say name (plainError file e)
        finish 1) files

/-! ## Bytes -/

/-- The first parts of a list that all have a length, save perhaps the last one. -/
def chunks {α : Type} (n : Nat) : Nat → List α → List (List α)
  | 0, _ => []
  | bound + 1, xs => if xs.isEmpty then [] else xs.take n :: chunks n bound (xs.drop n)

/-- A byte with a name of three characters. -/
def byteName (c : Char) : Text :=
  match c with
  | '\x00' => "\\0".toList
  | '\x07' => "\\a".toList
  | '\x08' => "\\b".toList
  | '\t' => "\\t".toList
  | '\n' => "\\n".toList
  | '\x0b' => "\\v".toList
  | '\x0c' => "\\f".toList
  | '\r' => "\\r".toList
  | c =>
    if ' ' ≤ c ∧ c ≤ '~' then [c]
    else let ds := Nat.toDigits 8 c.toNat; List.replicate (3 - ds.length) '0' ++ ds

/-- A number in a base with so many digits. -/
def digits (base width n : Nat) : Text :=
  let ds := Nat.toDigits base n
  List.replicate (width - ds.length) '0' ++ ds

/-- How a dump shows its bytes: how many belong together, and their text. -/
def dumpFormat? (format : Text) : Option (Nat × (List Char → Text)) :=
  let number (bytes : List Char) : Nat := bytes.reverse.foldl (fun n c => n * 256 + c.toNat) 0
  let signed (size : Nat) (n : Nat) : Int := (n : Int).bmod (256 ^ size)
  let size? (rest : Text) (usual : Nat) : Option Nat :=
    if rest.isEmpty then some usual
    else match Arithmetic.natural? rest with
      | some n => if [1, 2, 4, 8].contains n then some n else none
      | none => none
  let width (base size : Nat) : Nat := (Nat.toDigits base (256 ^ size - 1)).length
  match format with
  | ['c'] => some (1, fun b => padded 4 (byteName (b.headD '\x00')))
  | 'x' :: rest => (size? rest 4).map fun n =>
    (n, fun b => ' ' :: digits 16 (width 16 n) (number b))
  | 'o' :: rest => (size? rest 4).map fun n => (n, fun b => ' ' :: digits 8 (width 8 n) (number b))
  | 'u' :: rest => (size? rest 4).map fun n =>
    (n, fun b => padded (width 10 n + 1) (decimal (number b : Nat)))
  | 'd' :: rest => (size? rest 4).map fun n =>
    (n, fun b => padded (width 10 n + 2 - (if n = 8 then 1 else 0)) (decimal (signed n (number b))))
  | _ => none

/-- Shows the bytes of files as numbers. -/
def od : Utility := fun name args =>
  withOptions name 1 "bcdoxv" "AtNjw" args fun options files => do
    finish 0
    let formats := options.filterMap fun o => match o.1 with
      | 'b' => some "o1".toList
      | 'c' => some ['c']
      | 'd' => some "u2".toList
      | 'o' => some "o2".toList
      | 'x' => some "x2".toList
      | 't' => some o.2
      | _ => none
    let formats := if formats.isEmpty then ["o2".toList] else formats
    match formats.find? fun f => (dumpFormat? f).isNone with
    | some format => stop name 1 ("invalid type string ".toList ++ quoted format)
    | none => do
      let text ← joined name 1 plainError files
      let text := match (options.last? 'j').bind amount? with
        | some n => text.drop n
        | none => text
      let text := match (options.last? 'N').bind amount? with
        | some n => text.take n
        | none => text
      let address (n : Nat) : Text := match options.last? 'A' with
        | some ['n'] => []
        | some ['d'] => digits 10 7 n
        | some ['x'] => digits 16 6 n
        | _ => digits 8 7 n
      let shown := formats.filterMap dumpFormat?
      let widest := (shown.map fun (n, show_) => ((show_ (List.replicate n '\x00')).length, n))
      let row (bytes : List Char) (offset : Nat) : Text :=
        (shown.zipIdx.map fun ((n, show_), i) =>
          let start := if i = 0 then address offset else List.replicate (address offset).length ' '
          let cell (part : List Char) : Text :=
            let own := (show_ (part ++ List.replicate (n - part.length) '\x00'))
            let wanted := widest.foldl (fun w (width, size) => max w (width * n / size)) 0
            padded (max own.length wanted) own
          ended (start ++ (chunks n (bytes.length + 1) bytes).flatMap cell)).flatten
      let rows := chunks 16 (text.length + 1) text
      let rec lines (before : Option (List Char)) (starred : Bool) (offset : Nat) :
          List (List Char) → Text
        | [] => []
        | bytes :: rest =>
          if before = some bytes && !options.has 'v' && !rest.isEmpty then
            (if starred then [] else ['*', '\n']) ++ lines before true (offset + bytes.length) rest
          else row bytes offset ++ lines (some bytes) false (offset + bytes.length) rest
      let last := address text.length
      put name (lines none false 0 rows ++ if last.isEmpty then [] else ended last)

def base64Digits : List Char :=
  "ABCDEFGHIJKLMNOPQRSTUVWXYZabcdefghijklmnopqrstuvwxyz0123456789+/".toList

/-- Bytes in digits of six bits. -/
def base64Encode (text : Text) : Text :=
  (chunks 3 (text.length + 1) text).flatMap fun part =>
    let n := (part ++ List.replicate (3 - part.length) '\x00').foldl (fun n c => n * 256 + c.toNat) 0
    let ds := [n / 262144, n / 4096 % 64, n / 64 % 64, n % 64].map fun d => base64Digits.getD d '='
    ds.take (part.length + 1) ++ List.replicate (3 - part.length) '='

/-- The bytes that digits of six bits stand for, and whether all of them make sense. -/
def base64Decode (text : Text) : Text × Bool :=
  let rec parts : List (List Char) → Text × Bool
    | [] => ([], true)
    | part :: rest =>
      let ds := part.takeWhile (· != '=')
      let values := ds.filterMap base64Digits.idxOf?
      let n := (values ++ List.replicate (4 - values.length) 0).foldl (fun n d => n * 64 + d) 0
      let bytes := ([n / 65536, n / 256 % 256, n % 256].map Char.ofNat).take (values.length - 1)
      if values.length < ds.length ∨ part.length < 4 ∨ ds.length < 2 ∨
          ds.length < 4 ∧ !rest.isEmpty then (bytes, false)
      else let (more, ok) := parts rest; (bytes ++ more, ok)
  let digits := text.filter (· != '\n')
  parts (chunks 4 (digits.length + 1) digits)

def base64 : Utility := fun name args =>
  withOptions name 1 "di" "w" args fun options files => do
    finish 0
    let text ← joined name 1 plainError files
    if options.has 'd' then
      let (bytes, ok) := base64Decode text
      put name bytes
      if !ok then stop name 1 "invalid input".toList
    else
      let encoded := base64Encode text
      match ((options.last? 'w').bind Arithmetic.natural?).getD 76 with
      | 0 => put name encoded
      | width => put name ((chunks width (encoded.length + 1) encoded).flatMap ended)

/-- Copies blocks of bytes. -/
def dd : Utility := fun name args => do
  let operands := args.map fun arg =>
    let (key, value) := arg.span (· != '=')
    (String.ofList key, value.drop 1)
  let known := ["if", "of", "bs", "ibs", "obs", "count", "skip", "seek", "status", "conv", "iflag", "oflag"]
  match (args.zip operands).find? fun (arg, key, _) => !(known.contains key && arg.contains '=') with
  | some (arg, _) => misused name 1 ("unrecognized operand ".toList ++ quoted arg)
  | none =>
    let wrong := operands.find? fun (key, value) =>
      ["bs", "ibs", "obs", "count", "skip", "seek"].contains key && (amount? value).isNone
    match wrong with
    | some (_, value) => stop name 1 ("invalid number: ".toList ++ quoted value)
    | none => do
      finish 0
      let number (key : String) : Option Nat := (operands.lookup key).bind amount?
      let size := max (((number "bs").or (number "ibs")).getD 512) 1
      let skipped := (number "skip").getD 0 * size
      let wanted := (number "count").map fun n => skipped + n * size
      let file := (operands.lookup "if").getD ['-']
      match ← contents file wanted with
      | .error e => stop name 1 ("failed to open ".toList ++ quotedName file ++ ": ".toList ++ errorText e)
      | .ok text => do
        let text := text.drop skipped
        match operands.lookup "of" with
        | none => put name text
        | some target =>
          match (← get).files.write (toBytes target) (toBytes text) false with
          | .ok files => setFiles files
          | .error e => stop name 1 ("failed to open ".toList ++ quotedName target ++ ": ".toList ++ errorText e)
        if (← isOn) && operands.lookup "status" != some "none".toList then
          let records := decimal (text.length / size : Nat) ++ '+' ::
            (if text.length % size = 0 then ['0'] else ['1']) ++ " records ".toList
          report (records ++ "in\n".toList ++ records ++ "out\n".toList)

end DebugAdapter.Shell.Utility
