import Lookalike.Text.Cursor
import Lookalike.Text.NameChar
import Lookalike.Python.Grammar

/-!
# Scanning Python sources

The scanner delivers the next terminal of a source. What it delivers depends on what the grammar
can take next: a line end counts only where a statement may end, a reserved word only where it
may stand, and among operators the longest one that is possible wins.

Indentation is kept as a stack of columns; a tab counts eight columns. String literals that are
open are kept as a stack too, because the replacement fields of a formatted string may hold
further strings.

## Main definitions

* `Quote`, `Scanner` — open string literals and the state of the scanner.
* `Blank.scan` — white space, comments and continued lines before a terminal.
* `Scanner.layout` — line ends, blocks and strings.
* `Scanner.next?` — the next terminal or piece of text between terminals.
-/

namespace Lookalike.Python

structure Quote where
  mark : Char
  triple : Bool := false
  raw : Bool := false
  bytes : Bool := false
  formatted : Bool := false

structure Scanner where
  /-- The columns of the open blocks, innermost first; the module itself is at column 0. -/
  indents : List Nat := []
  quotes : List Quote := []
  /-- Whether the literal opened last is formatted, until a literal is closed. -/
  inFormatted : Bool := false

abbrev Expected := Grammar.TerminalSet

def Expected.has (e : Expected) (t : Terminal) : Bool := e.testBit t.code

structure Lexeme where
  terminal : Terminal
  start : Nat
  after : Cursor
  state : Scanner

/-! ## Strings -/

/-- What follows in an open string literal. -/
inductive StringStep where
  | text (after : Cursor)
  | close (after : Cursor)
  | other
  | ended

/-- Reads on in a string literal. `seen` tells whether characters have been read already. -/
def stringStep (q : Quote) (seen : Bool) (offset : Nat) : List Char → StringStep
  | [] => .ended
  | c :: r =>
    let here : Cursor := ⟨offset, c :: r⟩
    let textHere := if seen then StringStep.text here else .other
    if c = '\x00' then .ended
    else if q.formatted && (c == '\x7b' || c == '\x7d') then textHere
    else if c = '\\' then
      if q.raw then
        match r with
        | [] => stringStep q seen (offset + 1) []
        | '\r' :: '\n' :: r₂ => stringStep q seen (offset + 3) r₂
        | d :: r₁ =>
          if d == q.mark || d == '\\' then
            match r₁ with
            | '\r' :: '\n' :: r₃ => stringStep q seen (offset + 4) r₃
            | '\r' :: r₂ => stringStep q seen (offset + 3) r₂
            | '\n' :: r₂ => stringStep q seen (offset + 3) r₂
            | r₂ => stringStep q seen (offset + 2) r₂
          else if d == '\r' || d == '\n' then stringStep q seen (offset + 2) r₁
          else stringStep q seen (offset + 1) (d :: r₁)
      else if q.bytes then
        match r with
        | d :: r₁ =>
          if d == 'N' || d == 'u' || d == 'U' then
            match r₁ with
            | [] => stringStep q true (offset + 2) []
            | e :: r₂ => stringStep q true (offset + 2 + e.utf8Size) r₂
          else textHere
        | [] => textHere
      else textHere
    else if c == q.mark then
      if q.triple then
        match r with
        | d :: r₁ =>
          if d == q.mark then
            match r₁ with
            | e :: r₂ =>
              if e == q.mark then
                if seen then .text here else .close ⟨offset + 3, r₂⟩
              else .text ⟨offset + 2, r₁⟩
            | [] => .text ⟨offset + 2, r₁⟩
          else .text ⟨offset + 1, r⟩
        | [] => .text ⟨offset + 1, r⟩
      else if seen then .text here
      else .close ⟨offset + 1, r⟩
    else if c == '\n' && seen && !q.triple then .other
    else stringStep q true (offset + c.utf8Size) r

def stringPrefix (q : Quote) (flags : Bool) (c : Cursor) : List Char → Quote × Bool × Cursor
  | [] => (q, flags, c)
  | x :: r =>
    let go (q : Quote) := stringPrefix q true ⟨c.offset + 1, r⟩ r
    if x == 'f' || x == 'F' then go { q with formatted := true }
    else if x == 'r' || x == 'R' then go { q with raw := true }
    else if x == 'b' || x == 'B' then go { q with bytes := true }
    else if x == 'u' || x == 'U' then go q
    else (q, flags, c)

/-- What stands where a string literal may start. -/
inductive StringOpening where
  /-- A prefix and an opening quote, up to the place. -/
  | opened (q : Quote) (after : Cursor)
  /-- Letters that look like a prefix, without a quote. -/
  | letters
  | none

def stringOpening (c : Cursor) : StringOpening :=
  let (q, flags, c) := stringPrefix { mark := '"' } false c c.rest
  match c.rest with
  | '`' :: r => .opened { q with mark := '`' } ⟨c.offset + 1, r⟩
  | x :: r =>
    if x == '\'' || x == '"' then
      match r with
      | y :: z :: r₂ =>
        if y == x && z == x then .opened { q with mark := x, triple := true } ⟨c.offset + 3, r₂⟩
        else .opened { q with mark := x } ⟨c.offset + 1, r⟩
      | _ => .opened { q with mark := x } ⟨c.offset + 1, r⟩
    else if flags then .letters else .none
  | [] => if flags then .letters else .none

/-! ## Layout -/

structure Blank where
  lineEnded : Bool
  column : Nat
  firstComment : Option Nat
  after : Cursor

/-- Passes over white space. Comments on lines of their own are passed over only if `comments`
is set; a comment after other text, or a backslash that does not continue the line, gives no
result. `inComment` tells whether a comment is being passed over. -/
def Blank.scan (comments : Bool) (inComment lineEnded : Bool) (column : Nat)
    (firstComment : Option Nat) (offset : Nat) : List Char → Option Blank
  | [] => some ⟨true, 0, firstComment, ⟨offset, []⟩⟩
  | c :: r =>
    let next := offset + c.utf8Size
    if inComment then
      if c == '\n' || c == '\x00' then scan comments false lineEnded 0 firstComment next r
      else scan comments true lineEnded column firstComment next r
    else if c == '\n' then scan comments false true 0 firstComment next r
    else if c == ' ' then scan comments false lineEnded (column + 1) firstComment next r
    else if c == '\r' || c == '\x0c' then scan comments false lineEnded 0 firstComment next r
    else if c == '\t' then scan comments false lineEnded (column + 8) firstComment next r
    else if c == '#' && comments then
      if lineEnded then
        scan comments true lineEnded column (some (firstComment.getD column)) next r
      else none
    else if c == '\\' then
      match r with
      | '\n' :: r₁ => scan comments false lineEnded column firstComment (next + 1) r₁
      | '\r' :: '\n' :: r₁ => scan comments false lineEnded column firstComment (next + 2) r₁
      | '\r' :: [] => scan comments false lineEnded column firstComment (next + 1) []
      | [] => scan comments false lineEnded column firstComment next []
      | _ => none
    else some ⟨lineEnded, column, firstComment, ⟨offset, c :: r⟩⟩

namespace Scanner

def inString? (s : Scanner) (e : Expected) (c : Cursor) : Option (Option Lexeme) :=
  match s.quotes with
  | [] => none
  | q :: outer =>
    let doubled : Option (Option Lexeme) :=
      if e.has .escapedBrace && q.formatted then
        match c.rest with
        | x :: r =>
          if x == '\x7b' || x == '\x7d' then
            match r with
            | y :: r₁ =>
              if y == x then some (some ⟨.escapedBrace, c.offset, ⟨c.offset + 2, r₁⟩, s⟩)
              else some none
            | [] => some none
          else none
        | [] => none
      else none
    match doubled with
    | some found => some found
    | none =>
      if e.has .stringText then
        match stringStep q false c.offset c.rest with
        | .text after => some (some ⟨.stringText, c.offset, after, s⟩)
        | .close after =>
          let closed := { s with quotes := outer, inFormatted := false }
          some (some ⟨.stringEnd, c.offset, after, closed⟩)
        | .other => some none
        | .ended => none
      else none

/-- A line end, the begin or end of a block, or the start of a string literal. -/
def blockOrString? (s : Scanner) (e : Expected) (c : Cursor) : Option Lexeme := do
  let comments := e.has .indent || e.has .dedent || e.has .newline || e.has (.lit "except")
  let b ← Blank.scan comments false false 0 none c.offset c.rest
  let current := s.indents.head?.getD 0
  let closing := e.has (.lit "\x7d") || e.has (.lit ")") || e.has (.lit "]")
  let quoteNext := match b.after.rest with
    | x :: _ => x == '"' || x == '\'' || x == '`'
    | [] => false
  let dedentable := e.has .dedent ||
    (!e.has .newline && !(e.has .stringStart && quoteNext) && !closing)
  let commentOutside := match b.firstComment with
    | some k => k < current
    | none => true
  if b.lineEnded && e.has .indent && b.column > current then
    return ⟨.indent, c.offset, c, { s with indents := b.column :: s.indents }⟩
  if b.lineEnded && dedentable && b.column < current && !s.inFormatted && commentOutside then
    return ⟨.dedent, c.offset, c, { s with indents := s.indents.tail }⟩
  if b.lineEnded && e.has .newline then
    return ⟨.newline, c.offset, c, s⟩
  if b.firstComment.isNone && e.has .stringStart then
    match stringOpening b.after with
    | .opened q after =>
      return ⟨.stringStart, b.after.offset, after,
        { s with quotes := q :: s.quotes, inFormatted := q.formatted }⟩
    | _ => none
  else none

def layout? (s : Scanner) (e : Expected) (c : Cursor) : Option Lexeme :=
  match s.inString? e c with
  | some found => found
  | none => s.blockOrString? e c

end Scanner

/-! ## Numbers -/

abbrev DigitTest := Char → Bool

def isBinaryDigit : DigitTest := fun c => c == '0' || c == '1'

def isOctalDigit : DigitTest := fun c => '0' ≤ c && c ≤ '7'

def isDecimalDigit : DigitTest := fun c => '0' ≤ c && c ≤ '9'

def isHexDigit : DigitTest := fun c =>
  isDecimalDigit c || ('a' ≤ c && c ≤ 'f') || ('A' ≤ c && c ≤ 'F')

/-- The length of a run of digits in which an underscore may stand before any digit. -/
def prefixedRun (digit : DigitTest) : List Char → Nat
  | '_' :: d :: r => if digit d then prefixedRun digit r + 2 else 0
  | d :: r => if digit d then prefixedRun digit r + 1 else 0
  | [] => 0

/-- The length of a run of decimal digits in which single underscores may stand after digits.
`afterDigit` tells whether a digit comes just before. -/
def decimalRun (afterDigit : Bool) : List Char → Nat
  | c :: r =>
    if isDecimalDigit c then decimalRun true r + 1
    else if c == '_' && afterDigit then decimalRun false r + 1
    else 0
  | [] => 0

/-- One more if the next character is one of the letters. -/
def suffixed (letters : List Char) (n : Nat) (cs : List Char) : Nat :=
  match cs.drop n with
  | c :: _ => if letters.contains c then n + 1 else n
  | [] => n

/-- The length of an integer written with a base, if there is one. -/
def basedLength (marks : List Char) (digit : DigitTest) : List Char → Nat
  | '0' :: m :: r =>
    if marks.contains m then
      let n := prefixedRun digit r
      if n = 0 then 0 else suffixed ['l', 'L'] (n + 2) ('0' :: m :: r)
    else 0
  | _ => 0

/-- The length of the integer at the start of the characters, 0 if there is none. -/
def integerLength (cs : List Char) : Nat :=
  let n := decimalRun false cs
  let decimal := if n = 0 then 0 else suffixed ['l', 'L', 'j', 'J'] n cs
  max (max (basedLength ['x', 'X'] isHexDigit cs) (basedLength ['o', 'O'] isOctalDigit cs))
    (max (basedLength ['b', 'B'] isBinaryDigit cs) decimal)

/-- The length of an exponent at the start of the characters, 0 if there is none. -/
def exponentLength : List Char → Nat
  | e :: r =>
    if e == 'e' || e == 'E' then
      let sign := match r with
        | c :: _ => if c == '+' || c == '-' then 1 else 0
        | [] => 0
      let n := decimalRun false (r.drop sign)
      if n = 0 then 0 else 1 + sign + n
    else 0
  | [] => 0

/-- The length of the number with a point or an exponent at the start of the characters. -/
def floatLength (cs : List Char) : Nat :=
  let whole := decimalRun false cs
  let plain :=
    match cs.drop whole with
    | '.' :: r =>
      let fraction := decimalRun false r
      if whole = 0 && fraction = 0 then 0
      else
        let n := whole + 1 + fraction
        n + exponentLength (cs.drop n)
    | r =>
      if whole = 0 then 0
      else
        let n := exponentLength r
        if n = 0 then 0 else whole + n
  if plain = 0 then 0 else suffixed ['j', 'J'] plain cs

/-! ## Other terminals -/

/-- Whether the text is a word, so that the rules for names apply to it. -/
def isWord (text : String) : Bool :=
  match text.toList with
  | c :: r => startsName c && r.all continuesName
  | [] => false

def operators : List (List Char) :=
  ((literals.toList.filter fun t => !isWord t).map String.toList).mergeSort
    fun a b => a.length ≥ b.length

def isSeparator (c : Char) : Bool :=
  c == ' ' || c == '\t' || c == '\r' || c == '\n' || c == '\x0c' || c == '\ufeff' ||
    c == '\u2060' || c == '\u200b'

/-- The length of an escape sequence after the backslash, 0 if there is none. -/
def escapeLength : List Char → Nat
  | 'u' :: r => if (r.take 4).length = 4 && (r.take 4).all isHexDigit then 5 else 0
  | 'U' :: r => if (r.take 8).length = 8 && (r.take 8).all isHexDigit then 9 else 0
  | 'x' :: r => if (r.take 2).length = 2 && (r.take 2).all isHexDigit then 3 else 0
  | '\n' :: _ => 1
  | '\r' :: '\n' :: _ => 2
  | 'N' :: '\x7b' :: r =>
    let name := r.takeWhile (· ≠ '\x7d')
    if name.isEmpty || name.length = r.length then 0 else name.length + 3
  | c :: r =>
    if ['\'', '"', 'a', 'b', 'f', 'r', 'n', 't', 'v', '\\'].contains c then 1
    else if isDecimalDigit c then
      if (r.take 2).length = 2 && (r.take 2).all isDecimalDigit then 3 else 0
    else 0
  | [] => 0

/-- A terminal, or a piece of text between terminals. -/
inductive Scanned where
  | lexeme (l : Lexeme)
  | comment (start : Nat) (after : Cursor)
  /-- A backslash that continues the line, from the offset to the place. -/
  | continuation (start : Nat) (after : Cursor)

namespace Scanner

/-- The word at the place, as a reserved word where one may stand and else as a name. -/
def word? (s : Scanner) (e : Expected) (c : Cursor) : Option Lexeme :=
  let name := c.rest.takeWhile continuesName
  let after := c.advance name.length
  let text := String.ofList name
  let exceptGroup := Terminal.lit "except*"
  if text == "except" && after.rest.head? == some '*' && e.has exceptGroup then
    some ⟨exceptGroup, c.offset, after.step, s⟩
  else if literals.contains text && e.has (.lit text) then some ⟨.lit text, c.offset, after, s⟩
  else if e.has .identifier then some ⟨.identifier, c.offset, after, s⟩
  else none

def number? (s : Scanner) (e : Expected) (c : Cursor) : Option Lexeme :=
  let i := if e.has .integer then integerLength c.rest else 0
  let f := if e.has .float then floatLength c.rest else 0
  if f > i then some ⟨.float, c.offset, c.advance f, s⟩
  else if i > 0 then some ⟨.integer, c.offset, c.advance i, s⟩
  else none

/-- The longest expected operator or bracket at the place. -/
def operator? (s : Scanner) (e : Expected) (c : Cursor) : Option Lexeme :=
  (operators.find? fun o => o.isPrefixOf c.rest && e.has (.lit (String.ofList o))).map fun o =>
    ⟨.lit (String.ofList o), c.offset, c.advance o.length, s⟩

def between? (c : Cursor) : Option Scanned :=
  match c.rest with
  | '#' :: _ =>
    some (.comment c.offset (c.skipWhile fun x => x ≠ '\n' && x ≠ '\x00'))
  | '\\' :: '\n' :: _ => some (.continuation c.offset (c.advance 2))
  | '\\' :: '\r' :: '\n' :: _ => some (.continuation c.offset (c.advance 3))
  | _ => none

def plain? (s : Scanner) (e : Expected) (c : Cursor) : Option Scanned :=
  let formatText := c.rest.takeWhile fun x => x ≠ '\x7b' && x ≠ '\x7d' && x ≠ '\n'
  if e.has .formatText && !formatText.isEmpty then
    some (.lexeme ⟨.formatText, c.offset, c.advance formatText.length, s⟩)
  else if e.has .escape && c.rest.head? == some '\\' then
    let n := escapeLength c.rest.tail
    if n = 0 then some (.lexeme ⟨.backslash, c.offset, c.step, s⟩)
    else some (.lexeme ⟨.escape, c.offset, c.advance (n + 1), s⟩)
  else
    let c := c.skipWhile isSeparator
    match between? c with
    | some found => some found
    | none =>
      match c.rest with
      | [] => if e.has .endOfText then some (.lexeme ⟨.endOfText, c.offset, c, s⟩) else none
      | x :: r =>
        if startsName x then (s.word? e c).map .lexeme
        else if x == '!' && e.has .conversion && (r.head?.any fun y => 'a' ≤ y && y ≤ 'z') then
          some (.lexeme ⟨.conversion, c.offset, c.advance 2, s⟩)
        else ((s.number? e c).orElse fun _ => s.operator? e c).map .lexeme

/-- The next terminal or piece of text between terminals, or nothing if the text cannot go on
as expected. -/
def next? (s : Scanner) (e : Expected) (c : Cursor) : Option Scanned :=
  match s.layout? e c with
  | some l => some (.lexeme l)
  | none => s.plain? e c

end Scanner

end Lookalike.Python
