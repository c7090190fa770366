import Lookalike.Proofs.Glob.Portable

/-!
# How patterns begin

A pattern that begins with a character without special meaning begins with that character as its
first part: what is read later on changes parts behind it only. Such a pattern is portable, unless
the character is a slash.

## Main definitions

* `Glob.Begun` — the first part of a pattern has been read.
* `Glob.slashStarts` — the characters with which a pattern that is not portable may begin.

## Main statements

* `Glob.Begun.head?_parts` — the first part stays.
* `Glob.isPortable_of_start` — patterns that are portable because of their first character.
-/

namespace Lookalike

namespace Glob

variable {d : Dialect} {pattern : String} {c previous : Char} {p : Part} {f g : Frame}
  {outer : List Frame}

/-- The first part of the whole pattern has been read, and a slash that has just been read at its
level is another one. -/
structure Begun (p : Part) (previous : Char) (f : Frame) (outer : List Frame) : Prop where
  first : (outer.getLastD f).current.getLast? = some p
  behind : outer = [] → previous = '/' → 2 ≤ f.current.length

namespace Begun

theorem start (p : Part) (hc : c ≠ '/') : Begun p c (Frame.push {} p) [] :=
  ⟨rfl, fun _ h => absurd h hc⟩

theorem push (h : Begun p previous f outer) (q : Part) (c : Char) :
    Begun p c (f.push q) outer := by
  have hfirst := h.first
  constructor
  · cases outer with
    | nil => simp_all [Frame.push, List.getLast?_cons]
    | cons g gs => exact hfirst
  · rintro rfl -
    cases hf : f.current <;> simp_all [Frame.push]

/-- Inside of a group, nothing happens at the level of the first part. -/
theorem inGroup (h : Begun p previous f outer) (houter : outer ≠ []) (g : Frame) (c : Char) :
    Begun p c g outer := by
  refine ⟨?_, fun h => absurd h houter⟩
  cases outer with
  | nil => contradiction
  | cons f' fs => exact h.first

theorem enter (h : Begun p previous f outer) (c : Char) : Begun p c {} (f :: outer) := by
  refine ⟨?_, by simp⟩
  cases outer <;> exact h.first

theorem leave (h : Begun p previous f (g :: outer)) (q : Part) (c : Char) :
    Begun p c (g.push q) outer := by
  have hg : Begun p ' ' g outer := ⟨by cases outer <;> exact h.first, by simp⟩
  exact hg.push q c

/-- Path components take the place of a slash, which is not the first part. -/
theorem pushComponents (h : Begun p previous f outer)
    (hmay : mayBeComponents previous (!outer.isEmpty)) (q : Part) (c : Char) :
    Begun p c (f.pushComponents q) outer := by
  cases outer with
  | cons f' fs => exact h.inGroup (by simp) _ c
  | nil =>
    have hlength := h.behind rfl (by simpa [mayBeComponents] using hmay)
    have hfirst : f.current.getLast? = some p := h.first
    constructor <;> grind [Frame.pushComponents, List.getLastD]

/-- Once a first part has been read, it stays the first part of the pattern. -/
theorem head?_parts {lexemes : List Lexeme} {parts : List Part} (hb : Begun p previous f outer)
    (h : partsFrom previous f outer lexemes = .ok parts) : parts.head? = some p := by
  fun_induction partsFrom previous f outer lexemes
  case case1 previous f outer houter =>
    obtain rfl := List.isEmpty_iff.1 houter
    obtain rfl := Except.ok.inj h
    rw [List.head?_reverse]
    exact hb.first
  case case2 | case3 | case12 => cases h
  case case9 ih => exact ih (hb.enter _) h
  case case11 houter ih => exact ih (hb.inGroup (by simpa using houter) _ _) h
  case case13 ih => exact ih (hb.leave _ _) h
  case case15 hmay ih => exact ih (hb.pushComponents hmay _ _) h
  case case16 ih => exact ih (((hb.push _ '*').push _ '*').push _ _) h
  case case17 ih =>
    refine ih ?_ h
    split
    · exact hb.push _ _
    · exact (hb.push _ '*').push _ _
  case case18 hmay ih => exact ih (hb.pushComponents (Bool.and_eq_true _ _ ▸ hmay).1 _ _) h
  case case19 ih => exact ih ((hb.push _ '*').push _ _) h
  -- All other lexemes add one part to the current branch.
  all_goals
    rename_i ih
    exact ih (hb.push _ _) h

end Begun

/-! ## The first character -/

/-- The characters that are a slash, or with which something begins that may stand for one. -/
def slashStarts : List Char := ['/', '*', '?', '[', '\x7b', '\\']

@[grind →] theorem ne_slash_of_notMem (hc : c ∉ slashStarts) : c ≠ '/' :=
  fun h => hc (h ▸ List.mem_cons_self)

/-- A character outside `slashStarts` is read as itself, as a comma or as a closing brace. -/
theorem lexemesFrom_cons (u : UnclosedClass) (cs : List Char) (hc : c ∉ slashStarts) :
    ∃ later, lexemesFrom u true (c :: cs) = .plain c :: later ∨
      c = ',' ∧ lexemesFrom u true (c :: cs) = .comma :: later ∨
      c = '\x7d' ∧ lexemesFrom u true (c :: cs) = .closing :: later := by
  unfold lexemesFrom
  split <;> simp_all [slashStarts]

/-- A pattern that begins with a character outside `slashStarts` has it as its first part. -/
theorem head?_parts_parse {g : Glob} (hhead : pattern.toList.head? = some c)
    (hc : c ∉ slashStarts) (h : parse d pattern = .ok g) : g.parts.head? = some (.plain c) := by
  obtain ⟨cs, hcs⟩ := List.head?_eq_some_iff.1 hhead
  rw [parse, lexemes, hcs] at h
  cases hparts : partsFrom ' ' {} [] (lexemesFrom d.unclosedClass true (c :: cs)) with
  | error e => simp [hparts, Except.map] at h
  | ok parts =>
    rw [hparts] at h
    obtain rfl := Except.ok.inj h
    obtain ⟨later, hlexemes | ⟨rfl, hlexemes⟩ | ⟨rfl, hlexemes⟩⟩ :=
      lexemesFrom_cons d.unclosedClass cs hc
    · rw [hlexemes, partsFrom] at hparts
      exact (Begun.start _ (ne_slash_of_notMem hc)).head?_parts hparts
    · rw [hlexemes, partsFrom, if_pos List.isEmpty_nil] at hparts
      exact (Begun.start _ (by decide)).head?_parts hparts
    · rw [hlexemes, partsFrom] at hparts
      cases hparts

/-- A pattern is portable if it begins with a character that is no slash and with which nothing
begins that may stand for one. -/
theorem isPortable_of_start {g : Glob} (hhead : pattern.toList.head? = some c)
    (hc : c ∉ slashStarts) (h : parse d pattern = .ok g) : g.isPortable := by
  obtain ⟨ps, hps⟩ := List.head?_eq_some_iff.1 (head?_parts_parse hhead hc h)
  simp [isPortable, hps, opensInsideSequence, Part.opensInside, ne_slash_of_notMem hc]

end Glob

end Lookalike
