import Lookalike.Proofs.Text.Position
import Lookalike.Text.Utf8

/-!
# A table of lines

Positions can be looked up in a table of the offsets at which lines start, which is made in one pass
over the bytes of a text. The line of an offset is the number of starts that are not behind it, and
its column is told by the slice of the text from the last of them. Where there is no such slice,
bytes are counted in place of characters.

Here every access to the table and every difference is checked. No check fails, and the position is
the one that a scan of the text finds, also for offsets within characters and behind the text.

## Main definitions

* `lineStarts` — the table.
* `partitionPoint` — how many entries of a list come before the first that fails a test.
* `lookUp?` — the position of an offset by way of the table, with all checks.

## Main statements

* `pairwise_lineStarts` — the table ascends, so its entries up to an offset come first.
* `lookUp?_eq` — the position that is looked up.
-/

namespace Lookalike.Position

/-! ## The table -/

/-- The offsets behind the line feeds among bytes, of which the first is at `offset`. -/
def startsFrom (offset : Nat) (bytes : List UInt8) : List Nat :=
  ((bytes.zipIdx offset).filter (·.1 == 10)).map (·.2 + 1)

def lineStarts (source : List Char) : List Nat :=
  0 :: startsFrom 0 (source.flatMap String.utf8EncodeChar)

def partitionPoint {α : Type} (test : α → Bool) (xs : List α) : Nat := (xs.takeWhile test).length

/-- The difference of two offsets, if it is not negative. -/
def subtract? (a b : Nat) : Option Nat := if b ≤ a then some (a - b) else none

/-- How far an offset is behind the start of its line, in characters if it cuts none. -/
def distance? (source : List Char) (start offset : Nat) : Option Nat :=
  match slice? source start offset with
  | some cs => some cs.length
  | none => subtract? offset start

def lookUp? (source : List Char) (offset : Nat) : Option Position := do
  let line := partitionPoint (· ≤ offset) (lineStarts source)
  let start ← (lineStarts source)[← subtract? line 1]?
  let before ← distance? source start offset
  return ⟨(UInt32.ofNat line).toNat, (UInt32.ofNat before + 1).toNat⟩

section Starts

variable {bytes : List UInt8} {offset n : Nat}

theorem startsFrom_cons (offset : Nat) (b : UInt8) (bytes : List UInt8) :
    startsFrom offset (b :: bytes) =
      (if b = 10 then [offset + 1] else []) ++ startsFrom (offset + 1) bytes := by
  by_cases hb : b = 10 <;> simp [startsFrom, List.zipIdx_cons, hb]

@[simp, grind =] theorem startsFrom_append (offset : Nat) (as bs : List UInt8) :
    startsFrom offset (as ++ bs) = startsFrom offset as ++ startsFrom (offset + as.length) bs := by
  simp [startsFrom, List.zipIdx_append]

@[simp, grind =] theorem length_startsFrom (offset : Nat) (bytes : List UInt8) :
    (startsFrom offset bytes).length = bytes.count 10 := by
  induction bytes generalizing offset with
  | nil => rfl
  | cons b bytes ih =>
    rw [startsFrom_cons, List.length_append, ih, List.count_cons, Nat.add_comm]
    by_cases hb : b = 10 <;> simp [hb]

@[grind →] theorem mem_startsFrom (h : n ∈ startsFrom offset bytes) :
    10 ∈ bytes ∧ offset < n ∧ n ≤ offset + bytes.length := by
  simp only [startsFrom, List.mem_map, List.mem_filter, beq_iff_eq] at h
  obtain ⟨⟨b, i⟩, ⟨hp, rfl⟩, rfl⟩ := h
  refine ⟨List.fst_mem_of_mem_zipIdx hp, ?_, ?_⟩
  · exact Nat.lt_succ_of_le (List.le_snd_of_mem_zipIdx hp)
  · exact List.snd_lt_add_of_mem_zipIdx hp

theorem startsFrom_eq_nil (h : 10 ∉ bytes) (offset : Nat) : startsFrom offset bytes = [] := by
  rw [← List.length_eq_zero_iff, length_startsFrom, List.count_eq_zero]
  exact h

@[simp] theorem pairwise_startsFrom (offset : Nat) (bytes : List UInt8) :
    (startsFrom offset bytes).Pairwise (· < ·) := by
  induction bytes generalizing offset with
  | nil => exact .nil
  | cons b bytes ih =>
    rw [startsFrom_cons, List.pairwise_append]
    refine ⟨by split <;> simp, ih _, fun m hm n hn => ?_⟩
    have hlt := (mem_startsFrom hn).2.1
    split at hm
    · rwa [List.mem_singleton.1 hm]
    · contradiction

end Starts

section Lines

variable {xs ys zs : List Char} {offset r : Nat}

/-- The table ascends, so the entries up to an offset come before all others. -/
theorem pairwise_lineStarts (source : List Char) : (lineStarts source).Pairwise (· < ·) :=
  List.pairwise_cons.2 ⟨fun _ hn => (mem_startsFrom hn).2.1, pairwise_startsFrom _ _⟩

/-- The table of a text extends that of its beginning. -/
theorem lineStarts_append (xs ys : List Char) :
    lineStarts (xs ++ ys) =
      lineStarts xs ++ startsFrom (byteLength xs) (ys.flatMap String.utf8EncodeChar) := by
  rw [lineStarts, List.flatMap_append, startsFrom_append, Nat.zero_add,
    length_flatMap_utf8EncodeChar, lineStarts, List.cons_append]

/-- A line begins at the start of the text and behind each line feed. -/
@[simp, grind =]
theorem length_lineStarts (xs : List Char) : (lineStarts xs).length = 1 + xs.count '\n' := by
  rw [lineStarts, List.length_cons, length_startsFrom, count_flatMap_utf8EncodeChar, Nat.add_comm]

@[grind →] theorem le_of_mem_lineStarts {n : Nat} (h : n ∈ lineStarts xs) : n ≤ byteLength xs := by
  rcases List.mem_cons.1 h with rfl | h
  · exact Nat.zero_le _
  · have hle := (mem_startsFrom h).2.2
    rwa [length_flatMap_utf8EncodeChar, Nat.zero_add] at hle

/-- The last line starts behind the lines before it. -/
theorem exists_getLast?_lineStarts (xs : List Char) :
    ∃ zs, xs = zs ++ lastLine xs ∧ (lineStarts xs).getLast? = some (byteLength zs) := by
  induction xs using List.reverseRecOn with
  | nil => exact ⟨[], rfl, rfl⟩
  | append_singleton xs c ih =>
    obtain ⟨zs, hxs, hlast⟩ := ih
    rw [lineStarts_append, List.flatMap_singleton]
    by_cases hc : c = '\n'
    · refine ⟨xs ++ [c], ?_, ?_⟩
      · simp [hc, lastLine, List.rtakeWhile]
      · rw [byteLength_append, List.getLast?_append, hc]
        rfl
    · refine ⟨zs, ?_, ?_⟩
      · rw [lastLine_append_of_notMem xs (by simpa using Ne.symm hc), ← List.append_assoc, ← hxs]
      · have hfeed : (10 : UInt8) ∉ String.utf8EncodeChar c := by
          rw [mem_utf8EncodeChar_iff (by decide)]
          rwa [← Char.val_inj, ← UInt32.toNat_inj] at hc
        rw [startsFrom_eq_nil hfeed, List.append_nil, hlast]

/-! ## Offsets -/

/-- The next character does not end within so many bytes. -/
def Short (r : Nat) (ys : List Char) : Prop := ∀ c ∈ ys.head?, r < c.utf8Size

/-- Every offset is reached by characters and some bytes that make up no further character. -/
theorem exists_short (source : List Char) (offset : Nat) :
    ∃ xs ys r, source = xs ++ ys ∧ offset = byteLength xs + r ∧ Short r ys := by
  induction source generalizing offset with
  | nil => exact ⟨[], [], offset, rfl, by simp, by simp [Short]⟩
  | cons c cs ih =>
    by_cases hc : c.utf8Size ≤ offset
    · obtain ⟨xs, ys, r, rfl, hoffset, hr⟩ := ih (offset - c.utf8Size)
      exact ⟨c :: xs, ys, r, rfl, by rw [byteLength_cons]; omega, hr⟩
    · exact ⟨[], c :: cs, offset, rfl, by simp, by simpa [Short] using hc⟩

theorem Short.lt_of_mem_startsFrom (hr : Short r ys) {n : Nat}
    (h : n ∈ startsFrom offset (ys.flatMap String.utf8EncodeChar)) : offset + r < n := by
  cases ys with
  | nil => simp [startsFrom] at h
  | cons c cs =>
    have hc : r < c.utf8Size := hr c rfl
    rw [List.flatMap_cons, startsFrom_append, List.mem_append, String.length_utf8EncodeChar] at h
    rcases h with h | h
    · -- Only a line feed has the byte of a line feed, and it has no other.
      have hfeed := (mem_startsFrom h).1
      rw [mem_utf8EncodeChar_iff (by decide)] at hfeed
      obtain rfl : c = '\n' := Char.val_inj.1 (UInt32.toNat_inj.1 hfeed)
      have hzero : r = 0 := Nat.lt_one_iff.1 hc
      have := (mem_startsFrom h).2.1
      omega
    · have := (mem_startsFrom h).2.1
      omega

/-- The partition point over the table is the number of the line that the offset is on. -/
theorem Short.partitionPoint_lineStarts (hr : Short r ys) :
    partitionPoint (· ≤ byteLength xs + r) (lineStarts (xs ++ ys)) = (lineStarts xs).length := by
  have hbefore : ∀ n ∈ lineStarts xs, decide (n ≤ byteLength xs + r) = true := fun n hn =>
    decide_eq_true ((le_of_mem_lineStarts hn).trans (Nat.le_add_right _ _))
  have hbehind : (startsFrom (byteLength xs) (ys.flatMap String.utf8EncodeChar)).takeWhile
      (· ≤ byteLength xs + r) = [] := by
    rw [List.takeWhile_eq_nil_iff]
    intro hlength hle
    exact (hr.lt_of_mem_startsFrom (List.getElem_mem hlength)).not_ge (of_decide_eq_true hle)
  rw [partitionPoint, lineStarts_append, List.takeWhile_append_of_pos hbefore, hbehind,
    List.append_nil]

theorem Short.takeBytes?_eq_none (hr : Short r ys) (hpos : 0 < r) : takeBytes? r ys = none := by
  obtain ⟨k, rfl⟩ := Nat.exists_eq_succ_of_ne_zero hpos.ne'
  cases ys with
  | nil => rfl
  | cons c cs => exact if_neg (Nat.not_le_of_lt (hr c rfl))

/-- The slice from the start of a line to an offset, if the offset cuts no character. -/
theorem Short.slice?_eq (hr : Short r ys) :
    slice? (zs ++ xs ++ ys) (byteLength zs) (byteLength (zs ++ xs) + r) =
      if r = 0 then some xs else none := by
  split
  · next h => rw [h, Nat.add_zero, slice?_append]
  · next h =>
    have hsub : byteLength (zs ++ xs) + r - byteLength zs = byteLength xs + r := by
      rw [byteLength_append]
      omega
    rw [slice?, if_pos (by rw [byteLength_append]; omega), List.append_assoc, dropBytes?_append,
      Option.bind_some, hsub, takeBytes?_append_add, hr.takeBytes?_eq_none (by omega)]
    rfl

theorem Short.distance?_eq (hr : Short r ys) :
    distance? (zs ++ xs ++ ys) (byteLength zs) (byteLength (zs ++ xs) + r) =
      some (if r = 0 then xs.length else byteLength xs + r) := by
  rw [distance?, hr.slice?_eq]
  by_cases h : r = 0
  · rw [if_pos h, if_pos h]
  · rw [if_neg h, if_neg h]
    simp only [subtract?, byteLength_append]
    rw [if_pos (by omega), Nat.add_assoc, Nat.add_sub_cancel_left]

theorem Short.locate_eq (hr : Short r ys) (line chars bytes : Nat) :
    locate r line chars bytes ys = (line, if r = 0 then chars else bytes + r) := by
  cases ys with
  | nil => by_cases h : r = 0 <;> simp [locate, h]
  | cons c cs =>
    have hc : ¬ c.utf8Size ≤ r := Nat.not_le_of_lt (hr c rfl)
    by_cases h : r = 0 <;> simp [locate, h, hc]

/-- What the scan of a text counts up to an offset. -/
theorem Short.locate_append_eq (hr : Short r ys) :
    locate (byteLength xs + r) 1 0 0 (xs ++ ys) =
      (1 + xs.count '\n',
        if r = 0 then (lastLine xs).length else byteLength (lastLine xs) + r) := by
  rw [locate_append_add, hr.locate_eq]
  by_cases hxs : '\n' ∈ xs
  · simp [hxs]
  · simp [hxs]

end Lines

/-- The table gives the position of every offset, and no check fails. -/
theorem lookUp?_eq (source : List Char) (offset : Nat) :
    lookUp? source offset = some (ofOffset source offset) := by
  obtain ⟨xs, ys, r, rfl, rfl, hr⟩ := exists_short source offset
  obtain ⟨zs, hxs, hlast⟩ := exists_getLast?_lineStarts xs
  have hline : subtract? (lineStarts xs).length 1 = some ((lineStarts xs).length - 1) :=
    if_pos (Nat.succ_pos _)
  have hstart : (lineStarts (xs ++ ys))[(lineStarts xs).length - 1]? = some (byteLength zs) := by
    rw [lineStarts_append, List.getElem?_append_left (Nat.sub_one_lt_of_lt (Nat.succ_pos _)),
      ← List.getLast?_eq_getElem?, hlast]
  have hdistance : distance? (zs ++ lastLine xs ++ ys) (byteLength zs)
      (byteLength (zs ++ lastLine xs) + r) =
      some (if r = 0 then (lastLine xs).length else byteLength (lastLine xs) + r) :=
    hr.distance?_eq
  rw [← hxs] at hdistance
  simp only [lookUp?, ofOffset, hr.partitionPoint_lineStarts, hr.locate_append_eq, hline, hstart,
    hdistance, Option.bind_eq_bind, Option.bind_some]
  rw [length_lineStarts]
  rfl

end Lookalike.Position
