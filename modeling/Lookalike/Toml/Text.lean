import Lookalike.Toml.Scalar

/-!
# Quoted texts and keys of TOML

Readers take something from the start of a text and leave the rest.

## Main definitions

* `Toml.Reader` — what reads from the start of a text.
* `Toml.quotedText` — a text between quotes of any kind.
* `Toml.key` — the names of a key, with points between.
-/

namespace Lookalike.Toml

/-- What reads from the start of a text, and fails without a value. -/
abbrev Reader := StateT (List Char) Option

def isSpace (c : Char) : Bool := c == ' ' || c == '\t'

def skipSpace : Reader Unit := modify fun cs => cs.dropWhile isSpace

def peek : Reader (Option Char) := return (← get).head?

def expect (text : List Char) : Reader Unit := do
  let cs ← get
  if text.isPrefixOf cs then set (cs.drop text.length) else failure

def accept (text : List Char) : Reader Bool := do
  let cs ← get
  if text.isPrefixOf cs then
    set (cs.drop text.length)
    return true
  else return false

/-- Whether a character may stand in comments and in texts: no control but the tabulator. -/
def isPlainChar (c : Char) : Bool := c == '\t' || (0x20 ≤ c.toNat && c.toNat != 0x7f)

/-! ## Texts on one line -/

def codePoint? (digits : List Char) : Option Char :=
  let n := valueToBase 16 digits
  if !digits.all isHexDigit then none
  else if n < 0xd800 ∨ 0xdfff < n ∧ n < 0x110000 then some (Char.ofNat n)
  else none

/-- The character of an escape after its backslash, and the number of characters of the escape. -/
def escape? : List Char → Option (Char × Nat)
  | 'b' :: _ => some ('\x08', 1)
  | 't' :: _ => some ('\t', 1)
  | 'n' :: _ => some ('\n', 1)
  | 'f' :: _ => some ('\x0c', 1)
  | 'r' :: _ => some ('\r', 1)
  | '"' :: _ => some ('"', 1)
  | '\\' :: _ => some ('\\', 1)
  | 'u' :: rest => if rest.length < 4 then none else (codePoint? (rest.take 4)).map (·, 5)
  | 'U' :: rest => if rest.length < 8 then none else (codePoint? (rest.take 8)).map (·, 9)
  | _ => none

def basicBody : List Char → Option (List Char × List Char)
  | [] => none
  | '"' :: rest => some ([], rest)
  | '\\' :: rest =>
    match escape? rest with
    | none => none
    | some (c, n) => (basicBody (rest.drop n)).map fun (text, rest) => (c :: text, rest)
  | c :: rest =>
    if isPlainChar c then (basicBody rest).map fun (text, rest) => (c :: text, rest) else none
termination_by cs => cs.length
decreasing_by all_goals grind

def literalBody : List Char → Option (List Char × List Char)
  | [] => none
  | '\'' :: rest => some ([], rest)
  | c :: rest =>
    if isPlainChar c then (literalBody rest).map fun (text, rest) => (c :: text, rest) else none

/-! ## Texts over several lines -/

/-- A text without a line break at its start. -/
def dropBreak : List Char → List Char
  | '\n' :: rest => rest
  | '\r' :: '\n' :: rest => rest
  | rest => rest

/-- The end of a text over several lines: how many of the quotes that come next belong to it,
if they end it. Of up to five quotes the last three end the text. -/
def closing? (quote : Char) (cs : List Char) : Option Nat :=
  let run := (cs.takeWhile (· == quote)).length
  if run < 3 then none else if run ≤ 5 then some (run - 3) else some 2

/-- The text after a backslash at the end of a line: without the blanks and line breaks that
follow, of which there has to be one in the first line. -/
def continuation? (cs : List Char) : Option (List Char) :=
  match cs.dropWhile isSpace with
  | '\n' :: rest => some (skipBlank rest)
  | '\r' :: '\n' :: rest => some (skipBlank rest)
  | _ => none
where
  /-- The text without blanks and line breaks at its start. -/
  skipBlank : List Char → List Char
    | ' ' :: rest => skipBlank rest
    | '\t' :: rest => skipBlank rest
    | '\n' :: rest => skipBlank rest
    | '\r' :: '\n' :: rest => skipBlank rest
    | rest => rest

/-- The text up to three quotes, and what follows them. Escapes only count in double quotes. -/
def blockBody (quote : Char) : Nat → List Char → Option (List Char × List Char)
  | 0, _ => none
  | _, [] => none
  | fuel + 1, c :: rest =>
    if c = quote then
      match closing? quote (c :: rest) with
      | some n => some (List.replicate n quote, (c :: rest).drop (n + 3))
      | none => (blockBody quote fuel rest).map fun (text, rest) => (c :: text, rest)
    else if c = '\\' ∧ quote = '"' then
      match continuation? rest with
      | some rest => blockBody quote fuel rest
      | none =>
        match escape? rest with
        | none => none
        | some (d, n) =>
          (blockBody quote fuel (rest.drop n)).map fun (text, rest) => (d :: text, rest)
    else if c = '\r' then
      match rest with
      | '\n' :: rest => (blockBody quote fuel rest).map fun (text, rest) => ('\n' :: text, rest)
      | _ => none
    else if c = '\n' ∨ isPlainChar c then
      (blockBody quote fuel rest).map fun (text, rest) => (c :: text, rest)
    else none

def takeBody (body : List Char → Option (List Char × List Char)) : Reader String := do
  match body (← get) with
  | none => failure
  | some (text, rest) =>
    set rest
    return String.ofList text

def takeBlock (quote : Char) : Reader String := do
  modify dropBreak
  takeBody fun cs => blockBody quote (cs.length + 1) cs

/-- A text between quotes of any kind. -/
def quotedText : Reader String := do
  if ← accept ['"', '"', '"'] then takeBlock '"'
  else if ← accept ['\'', '\'', '\''] then takeBlock '\''
  else if ← accept ['"'] then takeBody basicBody
  else
    expect ['\'']
    takeBody literalBody

/-! ## Keys -/

def isNameChar (c : Char) : Bool := c.isAlphanum || c == '_' || c == '-'

def name : Reader String := do
  if ← accept ['"'] then takeBody basicBody
  else if ← accept ['\''] then takeBody literalBody
  else
    let cs ← get
    let bare := cs.takeWhile isNameChar
    if bare.isEmpty then failure
    set (cs.dropWhile isNameChar)
    return String.ofList bare

def keyFrom : Nat → Reader (List String)
  | 0 => failure
  | fuel + 1 => do
    skipSpace
    let first ← name
    skipSpace
    if ← accept ['.'] then return first :: (← keyFrom fuel)
    else return [first]

def key : Reader (List String) := do keyFrom ((← get).length + 1)

end Lookalike.Toml
