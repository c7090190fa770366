import Lookalike.Glob.Basic

/-!
# Lexemes of glob patterns

A pattern is cut into lexemes: wildcards, classes, the marks of alternatives, and characters that
stand for themselves. A backslash takes the special meaning from the next character.

A class begins with `[` and ends with `]`. Right at its start `!` or `^` negates it, and `]` and
`-` stand for themselves; later on `-` makes a range, unless it comes last. What to do with a
class that does not end is a matter of the dialect.

## Main definitions

* `Glob.Fault` — what can be wrong with a pattern, with `Glob.Fault.reason` as its wording.
* `Glob.Lexeme` — the lexemes.
* `Glob.lexemes` — the lexemes of a pattern.
-/

namespace Lookalike.Glob

/-- What can be wrong with a pattern. -/
inductive Fault where
  | unclosedClass
  /-- A range of a class ends before it starts. -/
  | invalidRange (first last : Char)
  | unopenedAlternatives
  | unclosedAlternatives
  | danglingEscape
  deriving DecidableEq, Repr

def Fault.reason : Fault → String
  | .unclosedClass => "unclosed character class; missing ']'"
  | .invalidRange first last =>
    "invalid range; '" ++ String.singleton first ++ "' > '" ++ String.singleton last ++ "'"
  | .unopenedAlternatives =>
    "unopened alternate group; missing '\x7b' (maybe escape '\x7d' with '[\x7d]'?)"
  | .unclosedAlternatives =>
    "unclosed alternate group; missing '\x7d' (maybe escape '\x7b' with '[\x7b]'?)"
  | .danglingEscape => "dangling '\\'"

inductive ClassReading where
  | closed (negated : Bool) (ranges : List (Char × Char)) (rest : List Char)
  | unclosed
  | invalid (first last : Char)

/-- The ranges of a class so far, from the last to the first. -/
structure ClassDraft where
  negated : Bool
  ranges : List (Char × Char)
  /-- Whether a `-` waits for the end of a range. -/
  inRange : Bool

def ClassDraft.read (d : ClassDraft) : List Char → ClassReading
  | [] => .unclosed
  | c :: rest =>
    if c = ']' ∧ ¬ d.ranges.isEmpty then
      let ranges := if d.inRange then ('-', '-') :: d.ranges else d.ranges
      .closed d.negated ranges.reverse rest
    else
      match d.inRange, d.ranges with
      | true, (first, _) :: earlier =>
        if c < first then .invalid first c
        else { d with ranges := (first, c) :: earlier, inRange := false }.read rest
      | _, ranges =>
        if c = '-' ∧ ¬ ranges.isEmpty then { d with inRange := true }.read rest
        else { d with ranges := (c, c) :: ranges, inRange := false }.read rest

def readClass : List Char → ClassReading
  | '!' :: rest => (ClassDraft.mk true [] false).read rest
  | '^' :: rest => (ClassDraft.mk true [] false).read rest
  | cs => (ClassDraft.mk false [] false).read cs

inductive Lexeme where
  | any
  | star
  | doubleStar
  | oneOf (negated : Bool) (ranges : List (Char × Char))
  | opening
  | comma
  | closing
  | escaped (c : Char)
  | plain (c : Char)
  | fault (f : Fault)

/-- What a class that does not end means. -/
inductive UnclosedClass where
  | isFault
  /-- This `[` and all later ones are plain characters. -/
  | isPlain
  deriving DecidableEq, Repr

/-- A class that closes leaves less than it was given to read. -/
@[grind →] theorem ClassDraft.length_of_read {d : ClassDraft} {cs : List Char} {negated : Bool}
    {ranges : List (Char × Char)} {rest : List Char} (h : d.read cs = .closed negated ranges rest) :
    rest.length < cs.length := by
  induction cs generalizing d with
  | nil => simp [read] at h
  | cons c cs ih => grind [read]

@[grind →]
theorem length_of_readClass {cs : List Char} {negated : Bool} {ranges : List (Char × Char)}
    {rest : List Char} (h : readClass cs = .closed negated ranges rest) :
    rest.length < cs.length := by
  unfold readClass at h
  split at h <;> have := ClassDraft.length_of_read h <;> simp_all <;> omega

/-- The lexemes of a text. Without `classes`, the character `[` is plain. -/
def lexemesFrom (unclosed : UnclosedClass) (classes : Bool) : List Char → List Lexeme
  | [] => []
  | '?' :: rest => .any :: lexemesFrom unclosed classes rest
  | '*' :: '*' :: rest => .doubleStar :: lexemesFrom unclosed classes rest
  | '*' :: rest => .star :: lexemesFrom unclosed classes rest
  | '\x7b' :: rest => .opening :: lexemesFrom unclosed classes rest
  | '\x7d' :: rest => .closing :: lexemesFrom unclosed classes rest
  | ',' :: rest => .comma :: lexemesFrom unclosed classes rest
  | '\\' :: [] => [.fault .danglingEscape]
  | '\\' :: c :: rest => .escaped c :: lexemesFrom unclosed classes rest
  | '[' :: rest =>
    if classes then
      match h : readClass rest with
      | .closed negated ranges after =>
        have := length_of_readClass h
        .oneOf negated ranges :: lexemesFrom unclosed true after
      | .invalid first last => [.fault (.invalidRange first last)]
      | .unclosed =>
        match unclosed with
        | .isFault => [.fault .unclosedClass]
        | .isPlain => .plain '[' :: lexemesFrom unclosed false rest
    else .plain '[' :: lexemesFrom unclosed false rest
  | c :: rest => .plain c :: lexemesFrom unclosed classes rest
termination_by cs => cs.length
decreasing_by all_goals grind

def lexemes (unclosed : UnclosedClass) (pattern : String) : List Lexeme :=
  lexemesFrom unclosed true pattern.toList

end Lookalike.Glob
