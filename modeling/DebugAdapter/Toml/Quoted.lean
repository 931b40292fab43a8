import DebugAdapter.Toml.Literal

/-! # TOML texts

Texts in quotes: with escapes or as they stand, on one line or on several. Every reader gives
what it read and what follows it. -/

namespace DebugAdapter.Toml.Quoted

/-- Whether a character may stand in a line as it is. -/
def isPlain (c : Char) : Bool := c == '\t' || (' ' ≤ c && c != '\x7f')

def isBlank (c : Char) : Bool := c == ' ' || c == '\t'

/-- What follows the end of a line. -/
def afterNewline? : List Char → Option (List Char)
  | '\n' :: rest => some rest
  | '\r' :: '\n' :: rest => some rest
  | _ => none

/-- What follows an optional end of a line. -/
def skipNewline (text : List Char) : List Char := (afterNewline? text).getD text

/-- The character that so many digits in base sixteen name. -/
def codePoint? (count : Nat) (text : List Char) : Option (Char × List Char) := do
  let digits ← (text.take count).mapM Literal.hexValue?
  let code := Literal.number 16 digits
  if digits.length = count ∧ code.isValidChar then some (Char.ofNat code, text.drop count)
  else none

/-- The character that an escape stands for, read after the backslash. -/
def escape? : List Char → Option (Char × List Char)
  | 'b' :: rest => some ('\x08', rest)
  | 'f' :: rest => some ('\x0c', rest)
  | 'n' :: rest => some ('\n', rest)
  | 'r' :: rest => some ('\r', rest)
  | 't' :: rest => some ('\t', rest)
  | '\\' :: rest => some ('\\', rest)
  | '"' :: rest => some ('"', rest)
  | 'u' :: rest => codePoint? 4 rest
  | 'U' :: rest => codePoint? 8 rest
  | _ => none

theorem length_escape? {text rest : List Char} {c : Char} (h : escape? text = some (c, rest)) :
    rest.length < text.length := by
  unfold escape? at h
  split at h <;> simp_all [codePoint?, Option.bind_eq_some_iff]
  all_goals
    obtain ⟨_, _, _, _, rfl⟩ := h
    simp only [List.length_drop]
    omega

/-! ## One line -/

/-- The rest of a text with escapes, read after its first quote. -/
def escaped (text : List Char) : Option (List Char × List Char) :=
  match text with
  | [] => none
  | '"' :: rest => some ([], rest)
  | '\\' :: rest =>
    match h : escape? rest with
    | some (c, after) => do
      have := length_escape? h
      let (cs, after) ← escaped after
      some (c :: cs, after)
    | none => none
  | c :: rest =>
    if isPlain c then do
      let (cs, after) ← escaped rest
      some (c :: cs, after)
    else none
termination_by text.length

/-- The rest of a text as it stands, read after its first quote. -/
def verbatim : List Char → Option (List Char × List Char)
  | [] => none
  | c :: rest =>
    if c = '\'' then some ([], rest)
    else if isPlain c then do
      let (cs, after) ← verbatim rest
      some (c :: cs, after)
    else none

/-! ## Several lines -/

/-- What follows three quotes that close a text, up to two of which belong to the text. -/
def closing? (quote : Char) (text : List Char) : Option (List Char × List Char) :=
  let (quotes, rest) := text.span (· == quote)
  if quotes.length < 3 then none
  else
    let inner := min 2 (quotes.length - 3)
    some (List.replicate inner quote, List.replicate (quotes.length - 3 - inner) quote ++ rest)

/-- What follows a backslash at the end of a line: the next character that is no blank. -/
def continued? (text : List Char) : Option (List Char) :=
  (afterNewline? (text.dropWhile isBlank)).map skipBlankLines
where
  skipBlankLines : List Char → List Char
    | '\n' :: rest => skipBlankLines rest
    | '\r' :: '\n' :: rest => skipBlankLines rest
    | c :: rest => if isBlank c then skipBlankLines rest else c :: rest
    | [] => []

theorem length_afterNewline? {text rest : List Char} (h : afterNewline? text = some rest) :
    rest.length < text.length := by
  unfold afterNewline? at h
  split at h
  · cases h
    exact Nat.lt_succ_self _
  · cases h
    simp only [List.length_cons]
    omega
  · cases h

theorem length_skipBlankLines (text : List Char) :
    (continued?.skipBlankLines text).length ≤ text.length := by
  fun_induction continued?.skipBlankLines text <;> simp_all <;> omega

theorem length_continued? {text rest : List Char} (h : continued? text = some rest) :
    rest.length < text.length := by
  obtain ⟨after, ha, rfl⟩ := Option.map_eq_some_iff.1 h
  have h₁ := length_afterNewline? ha
  have h₂ := length_skipBlankLines after
  have h₃ := (List.dropWhile_sublist isBlank (l := text)).length_le
  omega

/-- The rest of a text on several lines, read after its first three quotes. -/
def lines (quote : Char) (text : List Char) : Option (List Char × List Char) :=
  match closing? quote text with
  | some result => some result
  | none =>
    match text with
    | [] => none
    | '\r' :: '\n' :: rest | '\n' :: rest => do
      let (cs, after) ← lines quote rest
      some ('\n' :: cs, after)
    | c :: rest =>
      if c = '\\' ∧ quote = '"' then
        match h : continued? rest with
        | some after =>
          have := length_continued? h
          lines quote after
        | none =>
          match h : escape? rest with
          | some (c, after) => do
            have := length_escape? h
            let (cs, after) ← lines quote after
            some (c :: cs, after)
          | none => none
      else if isPlain c then do
        let (cs, after) ← lines quote rest
        some (c :: cs, after)
      else none
termination_by text.length

/-- The text at the start of some characters. -/
def read : List Char → Option (List Char × List Char)
  | '"' :: '"' :: '"' :: rest => lines '"' (skipNewline rest)
  | '\'' :: '\'' :: '\'' :: rest => lines '\'' (skipNewline rest)
  | '"' :: rest => escaped rest
  | '\'' :: rest => verbatim rest
  | _ => none

end DebugAdapter.Toml.Quoted
