import Lookalike.Text.Position

/-!
# Tokens

A token is what a comparison sees of a leaf. Names and literals are only known by their class, so
that renaming and other values make no difference; reserved words and punctuation keep their
text.

## Main definitions

* `TokenValue` — what is compared.
* `Token` — a value with its place in the text.
-/

namespace Lookalike

/-- What a comparison sees of a token. -/
inductive TokenValue where
  | keyword (text : String)
  | identifier
  | number
  | string
  | punctuation (text : String)
  deriving DecidableEq, Repr

/-- A value with its place in the text. -/
structure Token where
  start : Position
  stop : Position
  value : TokenValue
  deriving DecidableEq, Repr

end Lookalike
