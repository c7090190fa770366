import Lookalike.Leaf
import Lookalike.Ordered
import Lookalike.Text.Blank
import Lookalike.Token

/-!
# From leaves to tokens

Leaves are taken from left to right, each only if it ends beyond all that has been taken before;
so of nested leaves the outermost counts and empty ones are passed over. Comments are set aside by
their text. Every other leaf becomes a token, unless it is nothing but white space.

## Main definitions

* `KindTable` — which kinds of leaves are names, literals and comments, and the reserved words.
* `CommentSet` — comment texts in ascending order, each once.
* `outermost` — the leaves that are taken.
* `Lexed.ofLeaves` — the tokens and comments of a source.
-/

namespace Lookalike

/-- How a grammar's kinds of leaves map to classes of tokens. -/
structure KindTable where
  identifiers : List String
  numbers : List String
  strings : List String
  comments : List String
  keywords : List String

structure CommentSet where
  toList : List String
  ascending : Ordered.Ascending id toList

namespace CommentSet

def ofList (texts : List String) : CommentSet :=
  ⟨Ordered.ofList id texts, Ordered.ascending_ofList id texts⟩

def contains (s : CommentSet) (text : String) : Bool := s.toList.contains text

def countCommon (s t : CommentSet) : Nat := s.toList.countP t.contains

end CommentSet

/-- The tokens and comments of a source. -/
structure Lexed where
  tokens : List Token
  comments : CommentSet

/-- The leaves that end beyond `reach` and beyond every leaf taken before them. -/
def outermost (reach : Nat) : List Leaf → List Leaf
  | [] => []
  | l :: ls => if l.stop ≤ reach then outermost reach ls else l :: outermost l.stop ls

/-- What a comparison sees of a leaf of the given kind and text; nothing for white space. -/
def TokenValue.classify (kinds : KindTable) (kind text : String) : Option TokenValue :=
  if kinds.keywords.contains text then some (.keyword text)
  else if kinds.identifiers.contains kind then some .identifier
  else if kinds.numbers.contains kind then some .number
  else if kinds.strings.contains kind then some .string
  else
    let trimmed := trim text
    if trimmed.isEmpty then none else some (.punctuation trimmed)

/-- The token of a leaf, if it is no comment and not nothing but white space. -/
def Token.ofLeaf? (kinds : KindTable) (source : List Char) (l : Leaf) : Option Token :=
  if kinds.comments.contains l.kind then none
  else
    (TokenValue.classify kinds l.kind (String.ofList (l.text source))).map fun value =>
      ⟨Position.ofOffset source l.start, Position.ofOffset source l.stop, value⟩

/-- The text of a leaf, if it is a comment. -/
def Leaf.comment? (kinds : KindTable) (source : List Char) (l : Leaf) : Option String :=
  if kinds.comments.contains l.kind then some (String.ofList (l.text source)) else none

namespace Lexed

def empty : Lexed := ⟨[], .ofList []⟩

/-- The tokens and comments of a source with the given leaves. -/
def ofLeaves (kinds : KindTable) (source : String) (leaves : List Leaf) : Lexed :=
  let cs := source.toList
  let taken := outermost 0 leaves
  { tokens := taken.filterMap (Token.ofLeaf? kinds cs)
    comments := .ofList (taken.filterMap (Leaf.comment? kinds cs)) }

/-- The tokens and comments of a source. A source that could not be parsed has none. -/
def ofParse (kinds : KindTable) (source : String) (leaves : Option (List Leaf)) : Lexed :=
  match leaves with
  | none => empty
  | some ls => ofLeaves kinds source ls

end Lexed

end Lookalike
