/-!
# Cursors

A place in a text: the byte offset from its start and the characters that follow.

## Main definitions

* `Cursor` — the place.
* `Cursor.start`, `Cursor.step`, `Cursor.advance` — the start of a text and places further on.
-/

namespace Lookalike

structure Cursor where
  offset : Nat
  rest : List Char

namespace Cursor

def start (cs : List Char) : Cursor := ⟨0, cs⟩

/-- The place after the next character, if there is one. -/
def step (c : Cursor) : Cursor :=
  match c.rest with
  | [] => c
  | x :: r => ⟨c.offset + x.utf8Size, r⟩

def advance (c : Cursor) : Nat → Cursor
  | 0 => c
  | n + 1 => c.step.advance n

/-- The place at the first character that fails the test. -/
def skipWhile (p : Char → Bool) (c : Cursor) : Cursor :=
  c.advance (c.rest.takeWhile p).length

end Cursor

end Lookalike
