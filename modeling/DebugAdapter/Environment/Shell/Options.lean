import DebugAdapter.Environment.Shell.Syntax

/-! # Options of commands

Options are words that start with a minus sign, in front of the other arguments. Letters may
follow each other, and the rest of a word or the next one may belong to the last letter. -/

namespace DebugAdapter.Shell

inductive OptionFault where
  | illegal (letter : Char)
  | noArgument (letter : Char)
  /-- A word with two minus signs. -/
  | unknown (word : Text)
  deriving DecidableEq, Repr

/-- What a built-in command says about its options. -/
def OptionFault.message : OptionFault → Text
  | .illegal letter => "Illegal option -".toList ++ [letter]
  | .noArgument letter => "No arg for -".toList ++ letter :: " option".toList
  | .unknown _ => "Illegal option --".toList

/-- The letters of options, each with its argument. -/
abbrev Options := List (Char × Text)

namespace Options

def has (o : Options) (letter : Char) : Bool := o.any (·.1 == letter)

/-- The argument of the last option with a letter. -/
def last? (o : Options) (letter : Char) : Option Text :=
  (o.reverse.find? (·.1 == letter)).map (·.2)

/-- The options in one word. An option that takes an argument has the rest of the word, or the
next word. -/
def ofWord (flags valued : List Char) : Text → List Text → Except OptionFault (Options × List Text)
  | [], rest => .ok ([], rest)
  | c :: cs, rest =>
    if valued.contains c then
      match cs, rest with
      | [], [] => .error (.noArgument c)
      | [], value :: rest => .ok ([(c, value)], rest)
      | cs, rest => .ok ([(c, cs)], rest)
    else if flags.contains c then do
      let (more, rest) ← ofWord flags valued cs rest
      .ok ((c, []) :: more, rest)
    else .error (.illegal c)

/-- The options in front of some arguments, or among them, and the other arguments. The first
argument bounds the number of words. -/
def readWords (anywhere : Bool) (flags valued : List Char) :
    Nat → List Text → Except OptionFault (Options × List Text)
  | 0, args => .ok ([], args)
  | _, [] => .ok ([], [])
  | _ + 1, ['-', '-'] :: rest => .ok ([], rest)
  | bound + 1, ('-' :: c :: cs) :: rest =>
    if anywhere && c == '-' then .error (.unknown ('-' :: c :: cs))
    else do
      let (options, rest) ← ofWord flags valued (c :: cs) rest
      let (more, rest) ← readWords anywhere flags valued bound rest
      .ok (options ++ more, rest)
  | bound + 1, word :: rest =>
    if anywhere then do
      let (options, rest) ← readWords anywhere flags valued bound rest
      .ok (options, word :: rest)
    else .ok ([], word :: rest)

/-- The options in front of some arguments. -/
def ofArguments (flags valued : String) (args : List Text) :
    Except OptionFault (Options × List Text) :=
  readWords false flags.toList valued.toList (args.length + 1) args

/-- The options among some arguments. -/
def among (flags valued : String) (args : List Text) : Except OptionFault (Options × List Text) :=
  readWords true flags.toList valued.toList (args.length + 1) args

end Options

end DebugAdapter.Shell
