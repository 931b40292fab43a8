/-! # UTF-8

Texts as lists of bytes, and bytes as texts. Decoding is a machine that reads one byte at a
time and yields *pieces*: a character, or a part that belongs to no character. A part is as
long as it can still be the start of a character, so the same bytes are cut the same way
however they arrive. Strict and lossy decoding are two views of the pieces. -/

namespace DebugAdapter

abbrev Bytes := List UInt8

namespace Utf8

/-- The bytes of a text. -/
def encode (text : String) : Bytes := text.toList.flatMap String.utf8EncodeChar

/-- Where the decoder stands between two bytes. -/
inductive State where
  /-- Between characters. -/
  | start
  /-- Inside a character: the bytes still owed, the least and greatest byte that may come
  next, and the code point bits read so far. -/
  | inside (owed : Nat) (low high : UInt8) (code : Nat)
  deriving DecidableEq, Repr

/-- A decoded character, or `none` for a part that belongs to no character. -/
abbrev Piece := Option Char

/-- The first byte of a character. -/
def first (b : UInt8) : List Piece × State :=
  if b < 0x80 then ([some (Char.ofNat b.toNat)], .start)
  else if b < 0xC2 then ([none], .start)
  else if b < 0xE0 then ([], .inside 1 0x80 0xBF (b.toNat - 0xC0))
  else if b = 0xE0 then ([], .inside 2 0xA0 0xBF 0)
  else if b = 0xED then ([], .inside 2 0x80 0x9F 13)
  else if b < 0xF0 then ([], .inside 2 0x80 0xBF (b.toNat - 0xE0))
  else if b = 0xF0 then ([], .inside 3 0x90 0xBF 0)
  else if b < 0xF4 then ([], .inside 3 0x80 0xBF (b.toNat - 0xF0))
  else if b = 0xF4 then ([], .inside 3 0x80 0x8F 4)
  else ([none], .start)

/-- One byte: the pieces that it completes, and the state after it. A byte that cannot
continue a character ends the part before it and starts anew. -/
def step : State → UInt8 → List Piece × State
  | .start, b => first b
  | .inside owed low high code, b =>
    if low ≤ b ∧ b ≤ high then
      let code := code * 64 + (b.toNat - 0x80)
      if owed ≤ 1 then ([some (Char.ofNat code)], .start)
      else ([], .inside (owed - 1) 0x80 0xBF code)
    else (none :: (first b).1, (first b).2)

/-- The pieces of some bytes, read from a given state. -/
def piecesFrom : State → Bytes → List Piece
  | .start, [] => []
  | .inside .., [] => [none]
  | state, b :: rest => (step state b).1 ++ piecesFrom (step state b).2 rest

def pieces (bytes : Bytes) : List Piece := piecesFrom .start bytes

/-- The text of well-formed bytes, `none` for any others. -/
def decode? (bytes : Bytes) : Option String :=
  ((pieces bytes).mapM id).map String.ofList

/-- The text of any bytes, with one replacement character for each part that belongs to no
character. -/
def decodeLossy (bytes : Bytes) : String :=
  String.ofList ((pieces bytes).map (·.getD '\uFFFD'))

end Utf8

end DebugAdapter
