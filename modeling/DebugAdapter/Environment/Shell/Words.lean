import DebugAdapter.Environment.Shell.Arithmetic
import DebugAdapter.Environment.Shell.Builtins

/-! # The values of words

What the parts of words are replaced by. How a command is run whose output is a part of a word is
given from outside. -/

namespace DebugAdapter.Shell

open Effect

/-- The parameters as the value of a word. -/
def parameterGlyphs (s : State) (quoted : Bool) (name : Text) : List Glyph :=
  if !quoted then ((s.parameters.map (Glyph.ofValue false)).intersperse [.gap]).flatten
  else if name = ['@'] then ((s.parameters.map (Glyph.ofValue true)).intersperse [.border]).flatten
  else
    let separator : Text := match s.bindings.lookup "IFS".toList with
      | some separators => separators.take 1
      | none => [' ']
    Glyph.ofValue true (separator.intercalate s.parameters)

/-- The home of a user, as the accounts tell, or of the current one. -/
def State.home? (s : State) (user : Text) : Option Text :=
  if user.isEmpty then s.bindings.lookup "HOME".toList
  else
    match s.files.read (toBytes "/etc/passwd".toList) none with
    | .ok accounts =>
      let accounts := (Text.between '\n' (ofBytes accounts)).map (Text.between ':')
      (accounts.find? (·.head? == some user)).bind (·[5]?)
    | .error _ => none

/-- What an error of an arithmetic expression is called. -/
def arithmeticComplaint (text : Text) : Arithmetic.Failure → Text
  | .noNumber value => "Illegal number: ".toList ++ value
  | fault => "arithmetic expression: ".toList ++ fault.message.toList ++ ": \"".toList ++ text ++ ['"']

mutual

/-- The glyphs of a part of a word. -/
def expandPart (output : Command → Effect Text) : Part → Effect (List Glyph)
  | .text true [] => pure [.anchor]
  | .text quoted text => pure (text.map fun c => if quoted then .quoted c else .plain c)
  | .home user => do
    match (← get).home? user with
    | some home => pure (home.map .quoted)
    | none => pure (('~' :: user).map .plain)
  | .nonsense => do
    abort 2 "Bad substitution".toList
    pure []
  | .value quoted name orEmpty fallback word => do
    let s ← get
    let value := s.value? name
    let missing := value.isNone || (orEmpty && value == some [])
    let unset : Effect (List Glyph) := do
      abort 2 (name ++ ": parameter not set".toList)
      pure []
    -- A word without quotes is split like a value.
    let instead : Effect (List Glyph) := do
      return (← expand output word).map fun
        | .plain c => if quoted then .plain c else .replaced c
        | glyph => glyph
    let isList := name = ['@'] || name = ['*']
    let plain : Effect (List Glyph) :=
      if value.isNone && s.has 'u' && !isList then unset
      else if isList then pure (parameterGlyphs s quoted name)
      else pure (Glyph.ofValue quoted (value.getD []))
    match fallback, missing with
    | .use, true => instead
    | .alternative, false => instead
    | .alternative, true => pure (Glyph.ofValue quoted [])
    | .assign, true => do
      let value := Glyph.text (← expand output word)
      if Reader.isName name then
        assign name value
        pure (Glyph.ofValue quoted value)
      else do
        abort 2 (name ++ ": bad variable name".toList)
        pure []
    | .require, true => do
      let message := Glyph.text (← expand output word)
      abort 2 (name ++ ": ".toList ++ if word.isEmpty then
          (if orEmpty then "parameter not set or null" else "parameter not set").toList
        else message)
      pure []
    | .trim atEnd longest, _ =>
      if value.isNone && s.has 'u' && !isList then unset
      else do
        let glyphs ← expand output word
        pure (Glyph.ofValue quoted
          (Glyph.trim (Glyph.patternOf glyphs) atEnd longest (value.getD [])))
    | _, _ => plain
  | .length _ name => do
    let s ← get
    match s.value? name with
    | some value => pure (Glyph.ofValue true (decimal value.length))
    | none =>
      if s.has 'u' && name != ['@'] && name != ['*'] then do
        abort 2 (name ++ ": parameter not set".toList)
        pure []
      else pure [.quoted '0']
  | .arithmetic quoted word => do
    let text := Glyph.text (← expand output word)
    let s ← get
    match Arithmetic.evaluate s.bindings text with
    | .ok (n, names) => do
      for (name, value) in names do
        if s.bindings.lookup name != some value then assign name value
      pure (Glyph.ofValue quoted (decimal n))
    | .error fault => do
      abort 2 (arithmeticComplaint text fault)
      pure []
  | .output quoted command => do
    let text := (← output command).filter (· != '\x00')
    pure (Glyph.ofValue quoted (text.reverse.dropWhile (· == '\n')).reverse)

/-- The glyphs of a word. -/
def expand (output : Command → Effect Text) : List Part → Effect (List Glyph)
  | [] => pure []
  | part :: rest => do
    let glyphs ← expandPart output part
    if ← isOn then return glyphs ++ (← expand output rest) else return []

end

/-- The built-in commands whose arguments are assignments, which are not split. -/
def assigners : List String := ["export", "local", "readonly"]

/-- The fields of a word. Assignments that are not split are one field. -/
def expandWord (output : Command → Effect Text) (assigns : Bool) (word : Word) :
    Effect (List Text) := do
  match if assigns then Reader.assignment? word else none with
  | some (name, value) => return [name ++ '=' :: Glyph.text (← expand output value)]
  | none => do
    let glyphs ← expand output word
    let s ← get
    return (Glyph.fields s.separators glyphs).flatMap fun field =>
      if s.has 'f' then [Glyph.text field] else Glyph.expandPaths s.files field

/-- The fields of some words. The first one of all, or of a command that another one runs, says
whether assignments among the others are split. -/
def expandFrom (output : Command → Effect Text) (atStart assigns : Bool) :
    List Word → Effect (List Text)
  | [] => pure []
  | word :: rest => do
    let fields ← expandWord output assigns word
    if ← isOn then
      let first := String.ofList (fields.headD [])
      let isBegun := atStart && (fields.isEmpty || first == "command")
      let assigns := if atStart then assigners.contains first else assigns
      return fields ++ (← expandFrom output isBegun assigns rest)
    else return []

/-- The fields of some words. -/
def expandAll (output : Command → Effect Text) (words : List Word) : Effect (List Text) :=
  expandFrom output true false words

/-- The text of a word that is not split. -/
def expandText (output : Command → Effect Text) (word : Word) : Effect Text := do
  return Glyph.text (← expand output word)

/-- Gives variables their values, and tells what they are. -/
def assignAll (output : Command → Effect Text) :
    List (Text × Word) → Effect (List (Text × Text))
  | [] => pure []
  | (name, word) :: rest => do
    let value ← expandText output word
    if ← isOn then
      assign name value
      if ← isOn then return (name, value) :: (← assignAll output rest)
    return []

/-- Whether a text fits one of some patterns. -/
def fitsAny (output : Command → Effect Text) (text : Text) : List Word → Effect Bool
  | [] => pure false
  | word :: words => do
    let glyphs ← expand output word
    if !(← isOn) then pure false
    else if Glyph.isMatch (Glyph.patternOf glyphs) text then pure true
    else fitsAny output text words

end DebugAdapter.Shell
