/-!
# Letter case

Names that a user may write in any letter case consist of ASCII letters and hyphens. The
characters whose lower case is one of those are the ASCII letters and the Kelvin sign.

## Main definitions

* `foldCase` — a text with those characters in lower case.
-/

namespace Lookalike

/-- The lower case of a character, as far as it is an ASCII letter. -/
def foldChar (c : Char) : Char := if c = '\u212a' then 'k' else c.toLower

/-- A text with the lower case of every character that has an ASCII one. -/
def foldCase (text : String) : String := text.map foldChar

end Lookalike
