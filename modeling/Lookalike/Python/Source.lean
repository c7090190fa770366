import Lookalike.Event
import Lookalike.Lexed
import Lookalike.Python.Reader

/-!
# Tokens of Python sources

The classes of the kinds of leaves that the reader delivers, and the tokens of a source.

## Main definitions

* `Python.kinds` — the classes of leaves and the reserved words.
* `Python.parse` — the leaves of a source.
* `Python.lex` — the tokens and comments of a source.
-/

namespace Lookalike.Python

def keywords : List String :=
  ["False", "None", "True", "and", "as", "assert", "async", "await", "break", "class",
    "continue", "def", "del", "elif", "else", "except", "finally", "for", "from", "global",
    "if", "import", "in", "is", "lambda", "nonlocal", "not", "or", "pass", "raise", "return",
    "try", "while", "with", "yield"]

/-- The classes of the kinds of leaves. -/
def kinds : KindTable where
  identifiers := ["identifier", "keyword_identifier"]
  numbers := ["integer", "float"]
  strings := ["string"]
  comments := ["comment"]
  keywords := keywords

/-- The leaves of a source, if it is well-formed. -/
def parse (source : String) : Traced (Option (List Leaf)) :=
  match leaves? source with
  | none => do
    Traced.event .unparsed
    return none
  | some leaves => return some leaves

/-- The tokens and comments of a source. -/
def lex (source : String) : Traced Lexed := Lexed.ofParse kinds source <$> parse source

end Lookalike.Python
