import DebugAdapter.Environment.Shell.Edit.Editor
import DebugAdapter.Environment.Shell.Edit.Reader

/-! # Editing a stream of lines -/

namespace DebugAdapter.Shell.Utility

open Effect
open Edit (Editor)

/-- A part of a script: the file that it is from, and its text. -/
structure ScriptPart where
  file : Option Text := none
  text : Text
  deriving DecidableEq, Repr

/-- Where the character of a script is that has a number, given the number of the part that comes
first. -/
def scriptPlace (position : Nat) : Nat → List ScriptPart → Text
  | _, [] => []
  | n, part :: rest =>
    if part.text.length < position && !rest.isEmpty then
      scriptPlace (position - part.text.length - 1) (n + 1) rest
    else match part.file with
      | none => "-e expression #".toList ++ decimal n ++ ", char ".toList ++ decimal position
      | some file => "file ".toList ++ file ++ " line ".toList ++
          decimal ((part.text.take (position - 1)).count '\n' + 1 : Nat)

/-- Reads the parts of a script. -/
def scriptParts (name : Text) : List (Char × Text) → Effect (List ScriptPart)
  | [] => pure []
  | (letter, text) :: rest => do
    if letter = 'e' then return { text } :: (← scriptParts name rest)
    else match ← contents text none with
      | .ok inside => do
        let inside := if inside.getLast? = some '\n' then inside.dropLast else inside
        return { file := text, text := inside } :: (← scriptParts name rest)
      | .error e => do
        stop name 4 ("couldn't open file ".toList ++ bareError text e)
        return []

/-- Edits lines with a script. -/
def editWith (name : Text) (options : Options) (commands : List Edit.Command) (quiet : Bool)
    (files : List Text) : Effect Unit := do
  let width := ((options.last? 'l').bind Arithmetic.natural?).getD 70
  let s ← get
  let tree := (Editor.writtenFiles commands).foldl (fun tree file =>
    ((tree.write (toBytes file) [] false).toOption).getD tree) s.files
  if options.has 'i' then do
    modify ({ · with files := tree })
    let error (file : Text) (e : IoError) : Text :=
      if e = .system .isDirectory then
        "couldn't edit ".toList ++ file ++ ": not a regular file".toList
      else "can't read ".toList ++ bareError file e
    onFiles name 2 error files fun file text => do
      let edited := Editor.ofText quiet width commands (← get).files file text
      match edited.files.write (toBytes file) (toBytes edited.output.reverse.flatten) false with
      | .ok files => modify ({ · with files })
      | .error e => stop name 4 (bareError file e)
  else do
    let error (file : Text) (e : IoError) : Text :=
      if e = .system .isDirectory then "read error on ".toList ++ bareError file e
      else "can't read ".toList ++ bareError file e
    let text ← joined name 2 error files
    let status := (← get).status
    let edited := Editor.ofText quiet width commands tree (files.headD ['-']) text
    modify ({ · with files := edited.files })
    put name edited.output.reverse.flatten
    if ← isOn then finish (if edited.status = 0 then status else edited.status)

/-- Edits the lines of files. -/
def sed : Utility := fun name args =>
  withOptions name 1 "nErsuzi" "efl" args fun options words => do
    finish 0
    let given := options.filter fun o => o.1 == 'e' || o.1 == 'f'
    match given, words with
    | [], [] => do
      report ("Usage: ".toList ++ name ++
        " [OPTION]... \x7bscript-only-if-no-other-script\x7d [input-file]...\n\n".toList)
      endWith 1
    | _, _ => do
      let files := if given.isEmpty then words.drop 1 else words
      let parts ← scriptParts name (if given.isEmpty then [('e', words.headD [])] else given)
      if ← isOn then
        let extended := options.has 'E' || options.has 'r'
        let text := ['\n'].intercalate (parts.map (·.text))
        match Edit.script extended text with
        | .error (fault, position) =>
          let place := if position = 0 then "-e expression #1, char 0".toList
            else scriptPlace position 1 parts
          stop name 1 (place ++ ": ".toList ++ fault.message)
        | .ok commands =>
          match Edit.missingLabel? commands with
          | some label =>
            stop name 4 ("can't find label for jump to \x60".toList ++ label ++ ['\''])
          | none => editWith name options commands (options.has 'n' || Edit.isQuiet text) files

end DebugAdapter.Shell.Utility
