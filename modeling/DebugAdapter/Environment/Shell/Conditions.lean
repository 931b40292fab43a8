import DebugAdapter.Environment.Files.Tree
import DebugAdapter.Environment.Shell.Arithmetic

/-! # Conditions

What `test` says about texts, numbers and files. A reader of a condition keeps the word that it
used last at the head of the rest. -/

namespace DebugAdapter.Shell.Condition

open Files (Node Tree)

inductive Kind where
  | unary
  | binary
  | negation
  | conjunction
  | disjunction
  | opening
  | closing
  deriving DecidableEq, Repr

def unaryOperators : List String :=
  ["-r", "-w", "-x", "-e", "-f", "-d", "-c", "-b", "-p", "-u", "-g", "-k", "-s", "-t", "-z", "-n",
    "-h", "-O", "-G", "-L", "-S"]

def binaryOperators : List String :=
  ["=", "!=", "<", ">", "-eq", "-ne", "-ge", "-gt", "-le", "-lt", "-nt", "-ot", "-ef"]

/-- What a word is apart from an operand. -/
def kind? (word : Text) : Option Kind :=
  match String.ofList word with
  | "!" => some .negation
  | "-a" => some .conjunction
  | "-o" => some .disjunction
  | "(" => some .opening
  | ")" => some .closing
  | word =>
    if unaryOperators.contains word then some .unary
    else if binaryOperators.contains word then some .binary
    else none

/-- What the first word is where it stands: an operator with nothing to work on is an operand. -/
def role? (words : List Text) : Option Kind :=
  match words with
  | [] => none
  | word :: rest =>
    let isOperand : Bool := match rest with
      | [] => true
      | [_] => false
      | next :: _ => kind? next == some .binary
    match kind? word with
    | some .unary => if isOperand then none else some .unary
    | some .opening => if rest.isEmpty then none else some .opening
    | kind => kind

/-- What is wrong with a condition. -/
abbrev Complaint := Text

def number (word : Text) : Except Complaint Int :=
  match Arithmetic.decimal? word with
  | some n => .ok n
  | none => .error ("Illegal number: ".toList ++ word)

/-- What a file is like. -/
def fileIs (tree : Tree) (op : String) (path : Text) : Bool :=
  match tree.find (toBytes path), op with
  | .error _, _ => false
  | .ok node, "-f" => match node with | .file .. => true | _ => false
  | .ok node, "-d" => node = .directory
  | .ok node, "-c" => match node with | .null | .zeros | .full => true | _ => false
  | .ok node, "-s" => match node with
    | .file contents _ => !contents.isEmpty
    | .directory => true
    | _ => false
  | .ok node, "-x" => match node with
    | .file _ runs => runs
    | .directory => true
    | _ => false
  | .ok _, op => ["-e", "-r", "-w", "-O", "-G"].contains op

def unary (tree : Tree) (op : String) (word : Text) : Except Complaint Bool :=
  match op with
  | "-z" => .ok word.isEmpty
  | "-n" => .ok (!word.isEmpty)
  | "-t" => do
    let _ ← number word
    .ok false
  | op => .ok (fileIs tree op word)

def binary (tree : Tree) (a : Text) (op : String) (b : Text) : Except Complaint Bool :=
  let compare (p : Int → Int → Bool) : Except Complaint Bool := do
    .ok (p (← number a) (← number b))
  match op with
  | "=" => .ok (a == b)
  | "!=" => .ok (a != b)
  | "<" => .ok (decide (a < b))
  | ">" => .ok (decide (b < a))
  | "-eq" => compare (· == ·)
  | "-ne" => compare (· != ·)
  | "-ge" => compare (· ≥ ·)
  | "-gt" => compare (· > ·)
  | "-le" => compare (· ≤ ·)
  | "-lt" => compare (· < ·)
  | "-ef" => .ok (match tree.locate (toBytes a), tree.locate (toBytes b) with
    | .ok x, .ok y => x == y
    | _, _ => false)
  | _ => .ok false

def noArgument (op : Text) : Complaint := op ++ ": argument expected".toList

/-- Two operands and the operator between them. -/
def comparison (tree : Tree) (words : List Text) : Except Complaint (Bool × List Text) :=
  match words with
  | a :: op :: b :: rest => do return (← binary tree a (String.ofList op) b, b :: rest)
  | _ :: op :: [] => .error (noArgument op)
  | _ => .ok (false, words)

mutual

/-- Conditions of which one has to hold. -/
def disjunction (tree : Tree) : Nat → List Text → Except Complaint (Bool × List Text)
  | 0, words => .ok (false, words)
  | bound + 1, words => do
    let (first, words) ← conjunction tree bound words
    if role? (words.drop 1) = some .disjunction then
      let (others, words) ← disjunction tree bound (words.drop 2)
      .ok (first || others, words)
    else .ok (first, words)

/-- Conditions that all have to hold. -/
def conjunction (tree : Tree) : Nat → List Text → Except Complaint (Bool × List Text)
  | 0, words => .ok (false, words)
  | bound + 1, words => do
    let (first, words) ← negation tree bound words
    if role? (words.drop 1) = some .conjunction then
      let (others, words) ← conjunction tree bound (words.drop 2)
      .ok (first && others, words)
    else .ok (first, words)

def negation (tree : Tree) : Nat → List Text → Except Complaint (Bool × List Text)
  | 0, words => .ok (false, words)
  | bound + 1, words =>
    if role? words = some .negation then
      if words.length = 1 then .ok (true, words)
      else do
        let (holds, words) ← negation tree bound (words.drop 1)
        .ok (!holds, words)
    else primary tree bound words

/-- A condition without others in it, or one in parentheses. -/
def primary (tree : Tree) : Nat → List Text → Except Complaint (Bool × List Text)
  | 0, words => .ok (false, words)
  | _ + 1, [] => .ok (false, [])
  | bound + 1, word :: rest =>
    match role? (word :: rest), rest with
    | some .opening, rest =>
      if role? rest = some .closing then .ok (false, rest)
      else do
        let (holds, words) ← disjunction tree bound rest
        if role? (words.drop 1) = some .closing then .ok (holds, words.drop 1)
        else .error "closing paren expected".toList
    | some .unary, arg :: after => do
      return (← unary tree (String.ofList word) arg, arg :: after)
    | some .unary, [] => .error (noArgument word)
    | _, rest =>
      if role? rest = some .binary then comparison tree (word :: rest)
      else .ok (!word.isEmpty, word :: rest)

end

/-- Whether a condition holds. The first argument bounds how often words in parentheses or after
a negation are looked at on their own. -/
def holds (tree : Tree) : Nat → List Text → Except Complaint Bool
  | 0, _ | _, [] => .ok false
  | bound + 1, words => do
    let isBinary := words.length = 3 ∧ (words[1]?.bind kind?) = some .binary
    let isShort := words.length = 3 ∨ words.length = 4
    if isBinary then
      let (holds, _) ← comparison tree words
      .ok holds
    else if isShort ∧ words.head? = some ['('] ∧ words.getLast? = some [')'] then
      whole (words.drop 1).dropLast
    else if isShort ∧ words.head? = some ['!'] then
      return !(← holds tree bound (words.drop 1))
    else whole words
where
  /-- A condition to which all words belong. -/
  whole (words : List Text) : Except Complaint Bool := do
    match ← disjunction tree (4 * words.length + 8) words with
    | (holds, _ :: []) | (holds, []) => .ok holds
    | (_, word :: _) => .error (word ++ ": unexpected operator".toList)

/-- Whether the condition given by some arguments holds. -/
def test (tree : Tree) (args : List Text) : Except Complaint Bool := holds tree (args.length + 1) args

end DebugAdapter.Shell.Condition
