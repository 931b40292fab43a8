import DebugAdapter.Environment.Shell.Syntax
import DebugAdapter.Text.Path

/-! # Reading shell programs

A program is read one line of commands at a time. Readers change the rest of the program and
fail with an error that knows its line. Those that need to recur have a first argument that
bounds the depth; a multiple of the length of the text is always enough. -/

namespace DebugAdapter.Shell

/-- What commands are made of. -/
inductive Token where
  | ended
  | newline
  | sign (text : String)
  | redirection (stream : Option Nat) (sign : String)
  | keyword (text : String)
  | word (word : Word)

/-- How a token is called in messages. -/
def Token.shown : Token → String
  | .ended => "end of file"
  | .newline => "newline"
  | .sign text | .keyword text => "\"" ++ text ++ "\""
  | .redirection .. => "redirection"
  | .word _ => "word"

inductive SyntaxError where
  | unexpected (found : Token) (wanted : Option Token)
  | openQuote
  | openBackquote
  | missing (mark : String)
  | badLoopVariable
  | badFunctionName
  | tooDeep

def SyntaxError.message : SyntaxError → String
  | .unexpected found none => found.shown ++ " unexpected"
  | .unexpected found (some wanted) =>
    found.shown ++ " unexpected (expecting " ++ wanted.shown ++ ")"
  | .openQuote => "Unterminated quoted string"
  | .openBackquote => "EOF in backquote substitution"
  | .missing mark => "Missing '" ++ mark ++ "'"
  | .badLoopVariable => "Bad for loop variable"
  | .badFunctionName => "Bad function name"
  | .tooDeep => "too deep"

/-- The rest of a program. -/
structure Rest where
  text : Text
  line : Nat := 1
  /-- How many lines were taken out after the current one. -/
  taken : Nat := 0
  /-- A token that was read but not used. -/
  ahead : Option Token := none

/-- An error and the line it is on. -/
structure SyntaxFault where
  error : SyntaxError
  line : Nat

abbrev Reader := StateT Rest (Except SyntaxFault)

namespace Reader

/-! ## Characters -/

def isNameStart (c : Char) : Bool := c.isAlpha || c == '_'

def isNameChar (c : Char) : Bool := c.isAlphanum || c == '_'

/-- Whether a text is the name of a variable. -/
def isName (text : Text) : Bool := (text.head?.map isNameStart).getD false && text.all isNameChar

def isBlank (c : Char) : Bool := c == ' ' || c == '\t'

/-- Whether a character ends a word. -/
def isEnd (c : Char) : Bool := isBlank c || "\n;&|<>()".contains c

/-- The parameters of a shell that have a name of one sign. -/
def isSpecial (c : Char) : Bool := c.isDigit || "?$#@*!-".contains c

/-- What follows blanks, continued lines and a comment, and how many lines were continued. -/
def blanks : Text → Text × Nat
  | '\\' :: '\n' :: rest => let (rest, lines) := blanks rest; (rest, lines + 1)
  | '#' :: rest => (rest.dropWhile (· != '\n'), 0)
  | c :: rest => if isBlank c then blanks rest else (c :: rest, 0)
  | [] => ([], 0)

/-- The text up to the end of an arithmetic expression, and what follows it. Parentheses inside
are in pairs. -/
def upToEnd (depth : Nat) : Text → Option (Text × Text)
  | [] => none
  | c :: rest =>
    if depth = 0 ∧ c = ')' ∧ rest.head? = some ')' then some ([], rest.drop 1)
    else do
      let depth := if c = '(' then depth + 1 else if c = ')' then depth - 1 else depth
      let (text, rest) ← upToEnd depth rest
      some (c :: text, rest)

/-- The text of a command in backward quotes, which may itself stand in double quotes. -/
def backquoted (inQuotes : Bool) : Text → Option (Text × Text)
  | [] => none
  | '`' :: rest => some ([], rest)
  | '\\' :: '\n' :: rest => backquoted inQuotes rest
  | '\\' :: c :: rest => do
    let (text, rest) ← backquoted inQuotes rest
    some (if "`\\$".contains c || inQuotes && c == '"' then c :: text else '\\' :: c :: text, rest)
  | c :: rest => do
    let (text, rest) ← backquoted inQuotes rest
    some (c :: text, rest)

/-- The lines of a document up to its mark, what follows the mark, and how many lines that were. -/
def document (strips : Bool) (mark : Text) : Nat → Text → Text × Text × Nat
  | 0, text => ([], text, 0)
  | bound + 1, text =>
    let (line, rest) := text.span (· != '\n')
    let line := if strips then line.dropWhile (· == '\t') else line
    match rest with
    | [] => if line = mark then ([], [], 1) else (line, [], 0)
    | _ :: rest =>
      if line = mark then ([], rest, 1)
      else
        let (more, rest, lines) := document strips mark bound rest
        (line ++ '\n' :: more, rest, lines + 1)

/-! ## Steps -/

def fail {α : Type} (error : SyntaxError) : Reader α := fun r => .error ⟨error, r.line⟩

/-- Fails because of a token. -/
def reject {α : Type} (found : Token) (wanted : Option Token) : Reader α :=
  fail (.unexpected found wanted)

/-- Goes on after characters in the current line. -/
def goOn (text : Text) : Reader Unit := modify ({ · with text })

/-- Goes on in the next line. -/
def nextLine (text : Text) : Reader Unit :=
  modify fun r => { r with text, line := r.line + 1 + r.taken, taken := 0 }

/-- Goes on after a text with any characters. -/
def goPast (passed text : Text) : Reader Unit :=
  modify fun r => { r with text, line := r.line + passed.count '\n' }

/-- Puts a token back. -/
def putBack (t : Token) : Reader Unit := modify ({ · with ahead := some t })

/-! ## Words -/

/-- The plain text of a word without quotes. -/
def plain? : Word → Option Text
  | [.text false text] => some text
  | _ => none

/-- The text of a word without its quotes. -/
def bare (word : Word) : Text := word.flatMap fun
  | .text _ text => text
  | .home user => '~' :: user
  | _ => []

/-- A text without quotes, before others if it is not complete. A tilde at its start stands for a
directory. -/
def withHome (isComplete : Bool) : Text → Word
  | [] => []
  | '~' :: rest =>
    match rest.span (· != '/') with
    | (user, []) => if isComplete then [.home user] else [.text false ('~' :: rest)]
    | (user, path) => [.home user, .text false path]
  | text => [.text false text]

/-- A word with the directory that it starts with. -/
def startingAtHome (word : Word) : Word :=
  match word with
  | .text false text :: rest => withHome rest.isEmpty text ++ rest
  | word => word

/-- The texts between colons in a value, with the directories that they start with. The first one
may go on with what stands before, and the last one with what follows. -/
def withHomes (atStart isComplete : Bool) : List Text → Word
  | [] => []
  | [text] => if atStart then withHome isComplete text else [.text false text]
  | text :: rest =>
    (if atStart then withHome true text else [.text false text]) ++
      .text false [':'] :: withHomes true isComplete rest

/-- A value with its directories. -/
def valueWithHomes (atStart : Bool) : Word → Word
  | [] => []
  | .text false text :: rest =>
    withHomes atStart rest.isEmpty (Text.between ':' text) ++ valueWithHomes false rest
  | part :: rest => part :: valueWithHomes false rest

/-- An assignment: a name and an equals sign at the start of a word. -/
def assignment? (word : Word) : Option (Text × Word) :=
  match word with
  | .text false text :: rest =>
    match text.span (· != '=') with
    | (name, _ :: value) =>
      if isName name then
        some (name, valueWithHomes true (if value = [] then rest else .text false value :: rest))
      else none
    | _ => none
  | _ => none

/-- A part put before others, joined to the first one if both are alike. -/
def join : Part → Word → Word
  | .text false a, .text false b :: rest => .text false (a ++ b) :: rest
  | .text true a, .text true b :: rest => .text true (a ++ b) :: rest
  | part, rest => part :: rest

/-- Where a part of a word stands. -/
inductive Place where
  | word
  | quotes
  | document
  | braces (quoted : Bool)
  deriving DecidableEq, Repr

namespace Place

def isQuoted : Place → Bool
  | .word | .braces false => false
  | _ => true

def closing : Place → Option Char
  | .quotes => some '"'
  | .braces _ => some '\x7d'
  | _ => none

/-- Whether a backslash before a character stays. -/
def keepsBackslash (p : Place) (c : Char) : Bool :=
  match p with
  | .word | .braces false => false
  | .quotes => !"$`\"\\".contains c
  | .document => !"$`\\".contains c
  | .braces true => !"$`\"\\\x7d".contains c

/-- Whether a character stands for itself there. -/
def isOrdinary (p : Place) (c : Char) : Bool :=
  !"\\$`\"'\n".contains c && p.closing != some c && !(p == .word && isEnd c)

end Place

/-- How a value in braces is replaced. -/
def fallback? : Text → Option (Bool × Fallback × Text)
  | ':' :: '-' :: rest => some (true, .use, rest)
  | ':' :: '=' :: rest => some (true, .assign, rest)
  | ':' :: '+' :: rest => some (true, .alternative, rest)
  | ':' :: '?' :: rest => some (true, .require, rest)
  | '-' :: rest => some (false, .use, rest)
  | '=' :: rest => some (false, .assign, rest)
  | '+' :: rest => some (false, .alternative, rest)
  | '?' :: rest => some (false, .require, rest)
  | '%' :: '%' :: rest => some (false, .trim true true, rest)
  | '%' :: rest => some (false, .trim true false, rest)
  | '#' :: '#' :: rest => some (false, .trim false true, rest)
  | '#' :: rest => some (false, .trim false false, rest)
  | _ => none

/-- The name of a variable or a parameter. Numbers in braces have any number of digits. -/
def name? (inBraces : Bool) (text : Text) : Option (Text × Text) :=
  match text with
  | c :: rest =>
    if isNameStart c then some (text.span isNameChar)
    else if inBraces && c.isDigit then some (text.span Char.isDigit)
    else if isSpecial c then some ([c], rest)
    else none
  | [] => none

/-- The name in braces whose length is asked for. -/
def lengthName? (text : Text) : Option (Text × Text) :=
  match text with
  | '#' :: rest =>
    match name? true rest with
    | some (name, '\x7d' :: rest) => some (name, rest)
    | _ => none
  | _ => none

/-- The sign of a redirection. -/
def sign? (text : Text) : Option (String × Text) :=
  ["<<-", "<<", "<&", "<>", "<", ">>", ">&", ">|", ">"].findSome? fun sign =>
    if sign.toList.isPrefixOf text then some (sign, text.drop sign.length) else none

/-- The words that belong to commands of several parts. -/
def reserved : List String :=
  ["!", "case", "do", "done", "elif", "else", "esac", "fi", "for", "if", "in", "then", "until",
    "while", "\x7b", "\x7d"]

/-- Whether no command starts with a token. -/
def endsList : Token → Bool
  | .ended | .sign ")" | .sign ";;" => true
  | .keyword text =>
    ["do", "done", "elif", "else", "esac", "fi", "then", "\x7d"].contains text
  | _ => false

/-- The built-in commands that no function may replace. -/
def lasting : List String :=
  [".", ":", "break", "continue", "eval", "exec", "exit", "export", "local", "readonly", "return",
    "set", "shift", "times", "trap", "unset"]

/-- Which commands a list has. -/
inductive Extent where
  /-- Those of one line. -/
  | line
  /-- One at least. -/
  | some_
  | any
  deriving DecidableEq, Repr

/-- A command after others. -/
def after (before : Option Command) (c : Command) : Command :=
  match before with
  | none => c
  | some first => .sequence first c

/-- A command with redirections. -/
def withRedirections (line : Nat) (c : Command) (redirections : List Redirection) : Command :=
  if redirections.isEmpty then c else .redirected line c redirections

mutual

/-- What a dollar sign starts. -/
def dollar (quoted : Bool) : Nat → Reader Part
  | 0 => fail .tooDeep
  | bound + 1 => do
    match (← get).text with
    | '(' :: '(' :: rest =>
      match upToEnd 0 rest with
      | none => do
        goOn rest
        let _ ← parts .document bound
        fail (.missing "))")
      | some (inside, rest) => do
        let r ← get
        goOn inside
        let word ← parts .document bound
        set { r with text := rest, line := r.line + inside.count '\n' }
        pure (.arithmetic quoted word)
    | '(' :: rest => do
      goOn rest
      let command ← list .any none bound
      match ← next false false bound with
      | .sign ")" => pure (.output quoted (command.getD (.simple 0 [] [] [])))
      | t => reject t (some (.sign ")"))
    | '\x7b' :: rest => do
      match lengthName? rest with
      | some (name, rest) => do
        goOn rest
        pure (.length quoted name)
      | none =>
        match name? true rest with
        | none => do
          goOn (rest.drop 1)
          if rest.head? != some '\x7d' then let _ ← parts (.braces quoted) bound
          pure .nonsense
        | some (name, '\x7d' :: rest) => do
          goOn rest
          pure (.value quoted name false .nothing [])
        | some (name, rest) =>
          match fallback? rest with
          | none => do
            let n := if rest.head? = some ':' then 2 else 1
            goOn (rest.drop n)
            let _ ← parts (.braces quoted) bound
            pure .nonsense
          | some (orEmpty, fallback, rest) => do
            goOn rest
            let isPattern := match fallback with
              | .trim .. => true
              | _ => false
            let word ← parts (.braces (quoted && !isPattern)) bound
            pure (.value quoted name orEmpty fallback
              (if quoted then word else startingAtHome word))
    | text =>
      match name? false text with
      | some (name, rest) => do
        goOn rest
        pure (.value quoted name false .nothing [])
      | none => pure (.text quoted ['$'])

/-- The parts of a word up to what ends it at its place. -/
def parts (place : Place) : Nat → Reader Word
  | 0 => fail .tooDeep
  | bound + 1 => do
    let quoted := place.isQuoted
    let followed (part : Part) (rest : Text) : Reader Word := do
      goOn rest
      return join part (← parts place bound)
    let text := (← get).text
    let (run, rest) := text.span place.isOrdinary
    if !run.isEmpty then followed (.text quoted run) rest
    else match text with
      | [] =>
        match place with
        | .word | .document => pure []
        | .quotes | .braces true => fail .openQuote
        | .braces false => fail (.missing "\x7d")
      | '\\' :: '\n' :: rest => do
        nextLine rest
        parts place bound
      | '\\' :: c :: rest =>
        followed (.text true (if place.keepsBackslash c then ['\\', c] else [c])) rest
      | ['\\'] => followed (.text true ['\\']) []
      | '$' :: rest => do
        goOn rest
        let part ← dollar quoted bound
        return join part (← parts place bound)
      | '`' :: rest =>
        match backquoted quoted rest with
        | none => do
          goPast rest []
          fail .openBackquote
        | some (inside, rest) => do
          let r ← get
          set { text := inside : Rest }
          let command ← list .any none bound
          set { r with text := rest, line := r.line + (text.count '\n' - rest.count '\n') }
          return join (.output quoted (command.getD (.simple 0 [] [] []))) (← parts place bound)
      | c :: rest =>
        if place.closing = some c then do
          goOn rest
          pure []
        else if place = .word ∧ isEnd c then pure []
        else if c = '\n' then do
          nextLine rest
          return join (.text quoted ['\n']) (← parts place bound)
        else if c = '"' ∧ place ≠ .document then do
          goOn rest
          let inside ← parts .quotes bound
          return (if inside.isEmpty then [.text true []] else inside) ++ (← parts place bound)
        else if c = '\'' ∧ !quoted then
          match rest.span (· != '\'') with
          | (inside, _ :: after) => do
            goPast inside after
            return join (.text true inside) (← parts place bound)
          | _ => do
            goPast rest []
            fail .openQuote
        else followed (.text quoted [c]) rest

/-- A token that was not read before. -/
def fresh : Nat → Reader Token
  | 0 => fail .tooDeep
  | bound + 1 => do
    let (text, lines) := blanks (← get).text
    modify fun r => { r with text, line := r.line + lines }
    match text with
    | [] => pure .ended
    | '\n' :: rest => do nextLine rest; pure .newline
    | '&' :: '&' :: rest => do goOn rest; pure (.sign "&&")
    | '&' :: rest => do goOn rest; pure (.sign "&")
    | '|' :: '|' :: rest => do goOn rest; pure (.sign "||")
    | '|' :: rest => do goOn rest; pure (.sign "|")
    | ';' :: ';' :: rest => do goOn rest; pure (.sign ";;")
    | ';' :: rest => do goOn rest; pure (.sign ";")
    | '(' :: rest => do goOn rest; pure (.sign "(")
    | ')' :: rest => do goOn rest; pure (.sign ")")
    | c :: rest =>
      match sign? text, sign? rest with
      | some (sign, rest), _ => do goOn rest; pure (.redirection none sign)
      | none, some (sign, after) =>
        if c.isDigit then do goOn after; pure (.redirection (some (c.toNat - 48)) sign)
        else do return .word (← parts .word bound)
      | none, none =>
        return .word (startingAtHome (← parts .word bound))

/-- The next token. Reserved words count as such or not, and ends of lines are skipped or not. -/
def next (keywords lines : Bool) : Nat → Reader Token
  | 0 => fail .tooDeep
  | bound + 1 => do
    let t ← match (← get).ahead with
      | some t => do
        modify ({ · with ahead := none })
        pure t
      | none => fresh bound
    match t with
    | .newline => if lines then next keywords lines bound else pure t
    | .word word =>
      match plain? word with
      | some text =>
        let text := String.ofList text
        pure (if keywords && reserved.contains text then .keyword text else t)
      | none => pure t
    | t => pure t

/-- A redirection, after its sign. -/
def redirection (stream : Option Nat) (sign : String) : Nat → Reader Redirection
  | 0 => fail .tooDeep
  | bound + 1 => do
    match ← next false false bound with
    | .word word =>
      let out := stream.getD 1
      let input := stream.getD 0
      let copied (stream : Nat) : Redirection := match plain? word with
        | some ['-'] => .copy stream none
        | some [c] => if c.isDigit then .copy stream (some (c.toNat - 48)) else .copyOf stream word
        | _ => .copyOf stream word
      match sign with
      | ">" => pure (.file out .writing word)
      | ">|" => pure (.file out .overwriting word)
      | ">>" => pure (.file out .appending word)
      | "<" => pure (.file input .reading word)
      | "<>" => pure (.file input .updating word)
      | ">&" => pure (copied out)
      | "<&" => pure (copied input)
      | _ => do
        let r ← get
        let (line, below) := r.text.span (· != '\n')
        let (body, rest, lines) :=
          document (sign = "<<-") (bare word) (below.length + 1) (below.drop 1)
        let isPlain := word.all fun
          | .text quoted _ => !quoted
          | _ => true
        let content ← if isPlain then do
            set { text := body, line := r.line + 1 : Rest }
            parts .document bound
          else pure [.text true body]
        set { r with
          text := line ++ (if below.isEmpty then [] else '\n' :: rest), taken := r.taken + lines }
        pure (.document input content)
    | t => reject t none

/-- The redirections after a command. -/
def redirections : Nat → Reader (List Redirection)
  | 0 => fail .tooDeep
  | bound + 1 => do
    match ← next true false bound with
    | .redirection stream sign => do
      let one ← redirection stream sign bound
      return one :: (← redirections bound)
    | t => do
      putBack t
      pure []

/-- A simple command, of which a part was read, the last words first. -/
def simple (line : Nat) (assignments : List (Text × Word)) (words : List Word)
    (redirections : List Redirection) : Nat → Reader Command
  | 0 => fail .tooDeep
  | bound + 1 => do
    let finished := Command.simple line assignments.reverse words.reverse redirections.reverse
    match ← next false false bound with
    | .word word =>
      match words, assignment? word with
      | [], some a => simple line (a :: assignments) words redirections bound
      | _, _ => simple line assignments (word :: words) redirections bound
    | .redirection stream sign => do
      let one ← redirection stream sign bound
      simple line assignments words (one :: redirections) bound
    | .sign "(" =>
      match assignments, words, redirections with
      | [], [word], [] => do
        match ← next false false bound with
        | .sign ")" => do
          let name := (plain? word).getD []
          if !isName name || lasting.contains (String.ofList name) then fail .badFunctionName
          else do
            putBack (← next true true bound)
            return .define name (← command bound)
        | t => reject t (some (.sign ")"))
      | _, _, _ => do
        putBack (.sign "(")
        pure finished
    | t => do
      putBack t
      pure finished

/-- A keyword that has to stand there. -/
def expect (word : String) : Nat → Reader Unit
  | 0 => fail .tooDeep
  | bound + 1 => do
    match ← next true true bound with
    | .keyword found =>
      if found = word then pure () else reject (.keyword found) (some (.keyword word))
    | t => reject t (some (.keyword word))

/-- Commands of which there is one at least. -/
def block : Nat → Reader Command
  | 0 => fail .tooDeep
  | bound + 1 => do return (← list .some_ none bound).getD (.simple 0 [] [] [])

/-- What follows `if` or `elif`. -/
def choice : Nat → Reader Command
  | 0 => fail .tooDeep
  | bound + 1 => do
    let test ← block bound
    expect "then" bound
    let yes ← block bound
    match ← next true true bound with
    | .keyword "elif" => do return .choose test yes (some (← choice bound))
    | .keyword "else" => do
      let no ← block bound
      expect "fi" bound
      pure (.choose test yes (some no))
    | .keyword "fi" => pure (.choose test yes none)
    | t => reject t (some (.keyword "fi"))

/-- The words that a loop goes over. -/
def loopWords : Nat → Reader (List Word)
  | 0 => fail .tooDeep
  | bound + 1 => do
    match ← next false false bound with
    | .word word => do return word :: (← loopWords bound)
    | .newline | .sign ";" => pure []
    | t => reject t none

/-- The patterns of a clause, of which a token was read. -/
def patterns (t : Token) : Nat → Reader (List Word)
  | 0 => fail .tooDeep
  | bound + 1 => do
    let word ← match t with
      | .word word => pure word
      | .keyword text => pure [.text false text.toList]
      | _ => pure []
    match ← next false false bound with
    | .sign "|" => do return word :: (← patterns (← next false false bound) bound)
    | .sign ")" => pure [word]
    | t => reject t (some (.sign ")"))

/-- The clauses of a selection. -/
def clauses : Nat → Reader (List (List Word × Option Command))
  | 0 => fail .tooDeep
  | bound + 1 => do
    match ← next true true bound with
    | .keyword "esac" => pure []
    | t => do
      let t ← match t with
        | .sign "(" => next false false bound
        | t => pure t
      let words ← patterns t bound
      let body ← list .any none bound
      match ← next true true bound with
      | .keyword "esac" => pure [(words, body)]
      | .sign ";;" => do return (words, body) :: (← clauses bound)
      | t => reject t (some (.sign ";;"))

/-- One command. -/
def command : Nat → Reader Command
  | 0 => fail .tooDeep
  | bound + 1 => do
    let line := (← get).line
    let finished (c : Command) : Reader Command := do
      return withRedirections line c (← redirections bound)
    match ← next false false bound with
    | .keyword "if" => do finished (← choice bound)
    | .keyword "while" => do
      let test ← block bound
      expect "do" bound
      let body ← block bound
      expect "done" bound
      finished (.loop true test body)
    | .keyword "until" => do
      let test ← block bound
      expect "do" bound
      let body ← block bound
      expect "done" bound
      finished (.loop false test body)
    | .keyword "for" => do
      let name := match ← next false false bound with
        | .word word => (plain? word).getD []
        | _ => []
      if !isName name then fail .badLoopVariable
      let words ← match ← next true true bound with
        | .keyword "in" => do pure (some (← loopWords bound))
        | .sign ";" => pure none
        | t => do
          putBack t
          pure none
      expect "do" bound
      let body ← block bound
      expect "done" bound
      finished (.each line name words body)
    | .keyword "case" => do
      match ← next false false bound with
      | .word word => do
        expect "in" bound
        finished (.select line word (← clauses bound))
      | t => reject t (some (.word []))
    | .sign "(" => do
      let inside ← block bound
      match ← next true true bound with
      | .sign ")" => finished (.subshell line inside)
      | t => reject t (some (.sign ")"))
    | .keyword "\x7b" => do
      let inside ← block bound
      expect "\x7d" bound
      finished inside
    | .word word => do
      putBack (.word word)
      simple line [] [] [] bound
    | .redirection stream sign => do
      putBack (.redirection stream sign)
      simple line [] [] [] bound
    | t => reject t none

/-- Commands with pipes between them. -/
def pipes : Nat → Reader Command
  | 0 => fail .tooDeep
  | bound + 1 => do
    let first ← command bound
    match ← next false false bound with
    | .sign "|" => do
      putBack (← next true true bound)
      return .pipe first (← pipes bound)
    | t => do
      putBack t
      pure first

/-- Commands with pipes between them, whose status may be turned round. -/
def pipeline : Nat → Reader Command
  | 0 => fail .tooDeep
  | bound + 1 => do
    match ← next false false bound with
    | .keyword "!" => do
      putBack (← next true false bound)
      return .negation (← pipes bound)
    | t => do
      putBack t
      pipes bound

/-- Pipelines that depend on the ones before them. -/
def chain (before : Option (Bool × Command)) : Nat → Reader Command
  | 0 => fail .tooDeep
  | bound + 1 => do
    let one ← pipeline bound
    let all := match before with
      | none => one
      | some (true, first) => .andThen first one
      | some (false, first) => .orElse first one
    match ← next false false bound with
    | .sign "&&" => do
      putBack (← next true true bound)
      chain (some (true, all)) bound
    | .sign "||" => do
      putBack (← next true true bound)
      chain (some (false, all)) bound
    | t => do
      putBack t
      pure all

/-- Commands one after the other, after some that were read. -/
def list (extent : Extent) (before : Option Command) : Nat → Reader (Option Command)
  | 0 => fail .tooDeep
  | bound + 1 => do
    match ← next true (extent != .line) bound with
    | .newline => pure before
    | .ended => do
      putBack .ended
      pure before
    | t => do
      putBack t
      if endsList t && (extent == .any || extent == .some_ && before.isSome) then pure before
      else do
        let line := (← get).line
        let one ← chain none bound
        match ← next false false bound with
        | .sign "&" => list extent (some (after before (.background line one))) bound
        | .sign ";" => list extent (some (after before one)) bound
        | t => do
          putBack t
          match t with
          | .newline | .ended => list extent (some (after before one)) bound
          | t => if extent == .line then reject t none else pure (some (after before one))

end

/-- The commands of the next line that has some, and the rest of the program; nothing at its
end. -/
def line? : Nat → Rest → Except SyntaxFault (Option (Command × Rest))
  | 0, _ => .ok none
  | bound + 1, r => do
    match ← (list .line none (16 * r.text.length + 100)).run r with
    | (some command, rest) => .ok (some (command, rest))
    | (none, rest) =>
      match rest.ahead with
      | some .ended => .ok none
      | _ => line? bound rest

end Reader

end DebugAdapter.Shell
