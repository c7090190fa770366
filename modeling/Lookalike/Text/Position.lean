/-!
# Positions in a text

A position is a line and a column, both counted from 1. Positions are ordered as they come in
the text: first by line, then by column.

Lines end with a line feed and with nothing else, and columns count characters. Lines and columns
are 32-bit words.

## Main definitions

* `Position` — the pair, with its linear order.
* `Position.ofOffset` — the position of a byte offset.
-/

namespace Lookalike

structure Position where
  line : Nat
  column : Nat
  deriving DecidableEq, Repr

namespace Position

instance : LT Position :=
  ⟨fun p q => p.line < q.line ∨ p.line = q.line ∧ p.column < q.column⟩

instance : LE Position :=
  ⟨fun p q => p.line < q.line ∨ p.line = q.line ∧ p.column ≤ q.column⟩

@[grind =] theorem lt_def {p q : Position} :
    p < q ↔ p.line < q.line ∨ p.line = q.line ∧ p.column < q.column := Iff.rfl

@[grind =] theorem le_def {p q : Position} :
    p ≤ q ↔ p.line < q.line ∨ p.line = q.line ∧ p.column ≤ q.column := Iff.rfl

instance (p q : Position) : Decidable (p < q) := decidable_of_iff _ lt_def.symm

instance (p q : Position) : Decidable (p ≤ q) := decidable_of_iff _ le_def.symm

@[ext] theorem ext {p q : Position} (hl : p.line = q.line) (hc : p.column = q.column) : p = q := by
  cases p; cases q; simp_all

instance : Std.IsLinearOrder Position where
  le_refl p := by rw [le_def]; omega
  le_trans p q r := by simp only [le_def]; omega
  le_antisymm p q := by
    simp only [le_def]
    intro h₁ h₂
    ext <;> omega
  le_total p q := by simp only [le_def]; omega

instance : Std.LawfulOrderLT Position where
  lt_iff p q := by simp only [le_def, lt_def]; omega

instance : Min Position := minOfLe

instance : Max Position := maxOfLe

/-- Moves on by `remaining` bytes from a place on line number `line` that has `chars` characters
and `bytes` bytes before it on that line. An offset that is not between two characters counts
bytes in place of characters. -/
def locate (remaining line chars bytes : Nat) : List Char → Nat × Nat
  | [] => if remaining = 0 then (line, chars) else (line, bytes + remaining)
  | c :: cs =>
    if remaining = 0 then (line, chars)
    else if c.utf8Size ≤ remaining then
      if c = '\n' then locate (remaining - c.utf8Size) (line + 1) 0 0 cs
      else locate (remaining - c.utf8Size) line (chars + 1) (bytes + c.utf8Size) cs
    else (line, bytes + remaining)

/-- The position of a byte offset, narrowed to 32-bit words. -/
def ofOffset (source : List Char) (offset : Nat) : Position :=
  let (line, before) := locate offset 1 0 0 source
  ⟨(UInt32.ofNat line).toNat, (UInt32.ofNat before + 1).toNat⟩

end Position

end Lookalike
