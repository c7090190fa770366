import Lookalike.Proofs.Span.Overlap
import Lookalike.Proofs.Text.Bytes
import Lookalike.Text.Position
import Mathlib.Algebra.Group.Nat.Defs
import Mathlib.Data.List.DropRight
import Mathlib.Order.Monotone.Defs

/-!
# Positions of offsets

The position behind some characters is told by the line feeds among them and by the characters after
the last one. In a text of less than `2 ^ 32 - 1` bytes no line and no column is too large for a
word, so offsets that cut no character have this position, and later offsets have later positions.

## Main definitions

* `Position.behind` — the position behind characters.

## Main statements

* `Position.ofOffset_append` — the position of an offset is the one behind the characters before it.
* `Position.strictMonoOn_ofOffset` — offsets and their positions come in the same order.
-/

namespace Lookalike.Position

variable {cs xs ys : List Char}

def lastLine (cs : List Char) : List Char := cs.rtakeWhile (· ≠ '\n')

def behind (cs : List Char) : Position := ⟨1 + cs.count '\n', 1 + (lastLine cs).length⟩

theorem lastLine_append_of_notMem (xs : List Char) (h : '\n' ∉ ys) :
    lastLine (xs ++ ys) = lastLine xs ++ ys := by
  have hys : ∀ c ∈ ys.reverse, decide (c ≠ '\n') = true := by
    intro c hc
    rw [List.mem_reverse] at hc
    exact decide_eq_true fun he => h (he ▸ hc)
  simp only [lastLine, List.rtakeWhile, List.reverse_append, List.takeWhile_append_of_pos hys,
    List.reverse_reverse]

theorem lastLine_append_of_mem (xs : List Char) (h : '\n' ∈ ys) :
    lastLine (xs ++ ys) = lastLine ys := by
  have hys : (ys.reverse.takeWhile (· ≠ '\n')).length ≠ ys.reverse.length := by
    intro he
    have hall := List.takeWhile_eq_self_iff.1
      ((List.takeWhile_sublist (· ≠ '\n')).eq_of_length he)
    simpa using hall '\n' (List.mem_reverse.2 h)
  rw [lastLine, List.rtakeWhile, List.reverse_append, List.takeWhile_append, if_neg hys]
  rfl

theorem lastLine_cons (c : Char) (cs : List Char) :
    lastLine (c :: cs) =
      if '\n' ∈ cs then lastLine cs else if c = '\n' then cs else c :: cs := by
  rw [← List.singleton_append]
  split_ifs with hcs hc
  · exact lastLine_append_of_mem [c] hcs
  · rw [lastLine_append_of_notMem [c] hcs, hc]
    rfl
  · rw [lastLine_append_of_notMem [c] hcs]
    simp [lastLine, List.rtakeWhile, hc]

@[simp] theorem lastLine_of_notMem (h : '\n' ∉ cs) : lastLine cs = cs :=
  lastLine_append_of_notMem [] h

/-- Characters are passed over, of which those behind the last line feed count. -/
theorem locate_append_add (xs ys : List Char) (r line chars bytes : Nat) :
    locate (byteLength xs + r) line chars bytes (xs ++ ys) =
      locate r (line + xs.count '\n')
        (if '\n' ∈ xs then (lastLine xs).length else chars + xs.length)
        (if '\n' ∈ xs then byteLength (lastLine xs) else bytes + byteLength xs) ys := by
  induction xs generalizing line chars bytes with
  | nil => simp
  | cons c cs ih =>
    have hpos := c.utf8Size_pos
    have hrest : c.utf8Size + byteLength cs + r - c.utf8Size = byteLength cs + r := by omega
    rw [byteLength_cons, List.cons_append, locate, if_neg (by omega), if_pos (by omega), hrest,
      lastLine_cons]
    -- A line feed starts the counts anew.
    by_cases hc : c = '\n'
    · rw [if_pos hc, ih, hc]
      by_cases hcs : '\n' ∈ cs <;> simp [hcs, Nat.add_assoc, Nat.add_comm 1]
    · rw [if_neg hc, ih]
      by_cases hcs : '\n' ∈ cs
      · simp [hcs, hc]
      · simp [hcs, hc, Ne.symm hc, Nat.add_assoc, Nat.add_comm 1]

theorem locate_append (xs ys : List Char) (line chars bytes : Nat) :
    locate (byteLength xs) line chars bytes (xs ++ ys) =
      (line + xs.count '\n', if '\n' ∈ xs then (lastLine xs).length else chars + xs.length) := by
  rw [← Nat.add_zero (byteLength xs), locate_append_add]
  cases ys <;> simp [locate]

/-- Text that is appended moves the position behind it on. -/
theorem behind_lt_behind (h : ys ≠ []) : behind xs < behind (xs ++ ys) := by
  rw [lt_def]
  by_cases hys : '\n' ∈ ys
  · have := List.count_pos_iff.2 hys
    exact .inl (by simp [behind]; omega)
  · have := List.length_pos_iff.2 h
    refine .inr ⟨?_, ?_⟩
    · simp [behind, List.count_eq_zero.2 hys]
    · simp [behind, lastLine_append_of_notMem xs hys]
      omega

/-- In a text that is not too long, the position of an offset is the one behind the characters
before it. -/
theorem ofOffset_append (h : byteLength (xs ++ ys) < 2 ^ 32 - 1) :
    ofOffset (xs ++ ys) (byteLength xs) = behind xs := by
  have hline : xs.count '\n' ≤ xs.length := List.count_le_length
  have hlast : (lastLine xs).length ≤ xs.length := (List.rtakeWhile_suffix _ _).length_le
  have hlen : xs.length < 2 ^ 32 - 1 := by
    have := length_le_byteLength xs
    rw [byteLength_append] at h
    omega
  have hbefore : (if '\n' ∈ xs then (lastLine xs).length else 0 + xs.length) =
      (lastLine xs).length := by
    split_ifs with hxs
    · rfl
    · rw [lastLine_of_notMem hxs, Nat.zero_add]
  have hcolumn : (UInt32.ofNat (lastLine xs).length + 1).toNat = 1 + (lastLine xs).length := by
    rw [UInt32.toNat_add, UInt32.toNat_ofNat', UInt32.toNat_one]
    omega
  rw [ofOffset, locate_append, hbefore, behind]
  simp only [hcolumn, mk.injEq, and_true, UInt32.toNat_ofNat']
  omega

/-- Within the size limit, positions order the boundaries of a text as their offsets do. -/
theorem strictMonoOn_ofOffset (h : byteLength cs < 2 ^ 32 - 1) :
    StrictMonoOn (ofOffset cs) {n | IsBoundary cs n} := by
  intro m hm n hn hmn
  obtain ⟨xs, ys, zs, rfl, rfl, rfl⟩ := exists_eq_append_of_isBoundary hm hn hmn.le
  have hys : ys ≠ [] := by
    rintro rfl
    simp at hmn
  rw [ofOffset_append h, List.append_assoc, ofOffset_append (by rwa [← List.append_assoc])]
  exact behind_lt_behind hys

end Lookalike.Position
