import DebugAdapter.Text.Unprintable

/-! # Quoted text

How a name taken from a message is shown inside an error text: in double quotes, on one line,
with every character that has no visible form of its own written as an escape. -/

namespace DebugAdapter.Text

/-- The digits of a number in base sixteen. -/
def hexDigits (n : Nat) : List Char := Nat.toDigits 16 n

/-- A character inside quotes. -/
def escapeQuoted (c : Char) : List Char :=
  if c = '\x00' then ['\\', '0']
  else if c = '\t' then ['\\', 't']
  else if c = '\n' then ['\\', 'n']
  else if c = '\r' then ['\\', 'r']
  else if c = '\"' then ['\\', '\"']
  else if c = '\\' then ['\\', '\\']
  else if isShown c then [c]
  else ['\\', 'u', '\x7b'] ++ hexDigits c.toNat ++ ['\x7d']

/-- A text in double quotes. -/
def quoted (text : String) : String :=
  String.ofList ('\"' :: (text.toList.flatMap escapeQuoted ++ ['\"']))

end DebugAdapter.Text
