import Lookalike.Fingerprints
import Lookalike.Options
import Lookalike.Python.Source

/-!
# Indexed files

What a comparison needs of a file: its k-grams, the fingerprints among them, and its comments.

## Main definitions

* `Index` — the three.
* `Index.ofLexed` — the index of a lexed file.
* `Index.ofSource` — the index of a Python source.
-/

namespace Lookalike

/-- What a comparison needs of a file. -/
structure Index where
  kgrams : List KGram
  fingerprints : Fingerprints
  comments : CommentSet

def Index.ofLexed (options : Options) (lexed : Lexed) : Index :=
  let grams := Lookalike.kgrams lexed.tokens options.k
  ⟨grams, winnow grams options.w, lexed.comments⟩

def Index.ofSource (options : Options) (source : String) : Traced Index := do
  let lexed ← Python.lex source
  let index := Index.ofLexed options lexed
  Traced.event (.indexed lexed.tokens.length index.kgrams.length index.fingerprints.size)
  return index

end Lookalike
