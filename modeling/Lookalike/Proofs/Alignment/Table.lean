import Lookalike.Proofs.Alignment.Longest

/-!
# A table of lengths

A longest common subsequence can be found with less memory than the alignment takes: a table, kept
row by row in one array, holds only lengths, those for all beginnings of the two lists. The pairs
are read off on a walk back from its last cell.

Here every access to the table and to the lists is checked, a length must have 32 bits, and the
size of the table and all addresses in it must be below a limit, such as `2 ^ 64` for words. Lists
of less than `2 ^ 32` k-grams whose table has such a size never fail a check, and the walk finds the
pairs of the alignment.

## Main definitions

* `beginnings` — the best alignment of two beginnings of the lists.
* `fillTable?`, `walkBack?` — the two halves of the search, with all checks.
* `Filled` — how far the table has been filled.

## Main statements

* `exists_fillTable?` — no check fails while the table is filled.
* `Filled.walkBack?_eq` — the walk ends, and finds the best alignment.
* `longestCommon_subsequence` — what `longestCommon` computes, and that the table computes it too.
-/

open Lookalike.Alignment

namespace Lookalike

namespace Alignment

/-! ## The search -/

section Search

variable (limit : Nat) (left right : List KGram)

/-- The number after `n`, if it has 32 bits. -/
def next32? (n : Nat) : Option Nat :=
  if n + 1 < UInt32.size then some (n + 1) else none

def write? (cells : Array Nat) (i v : Nat) : Option (Array Nat) :=
  if h : i < cells.size then some (cells.set i v) else none

def below? (n : Nat) : Option Nat := if n < limit then some n else none

/-- Where the cell for the first `i` and the first `j` k-grams is kept. -/
def address (i j : Nat) : Nat := i * (right.length + 1) + j

def read? (cells : Array Nat) (i j : Nat) : Option Nat := do
  cells[← below? limit (address right i j)]?

/-- Fills the cell that takes in one k-gram more of either list than `i` and `j`. -/
def fillCell? (cells : Array Nat) (i j : Nat) : Option (Array Nat) := do
  let a ← left[i]?
  let b ← right[j]?
  let here ← below? limit (address right (i + 1) (j + 1))
  if a.hash = b.hash then
    write? cells here (← next32? (← read? limit right cells i j))
  else
    write? cells here
      (max (← read? limit right cells i (j + 1)) (← read? limit right cells (i + 1) j))

def fillRow? (cells : Array Nat) (i : Nat) : Option (Array Nat) :=
  (List.range right.length).foldlM (fun cells j => fillCell? limit left right cells i j) cells

/-- The table of two lists. Without a k-gram of either list there is nothing in common. -/
def fillTable? : Option (Array Nat) := do
  let size ← below? limit ((left.length + 1) * (right.length + 1))
  (List.range left.length).foldlM (fillRow? limit left right) (Array.replicate size 0)

/-- The pairs found from a cell on, the last ones first. -/
def walkBack? (cells : Array Nat) : Nat → Nat → Option (List (KGram × KGram))
  | i + 1, j + 1 => do
    let a ← left[i]?
    let b ← right[j]?
    if a.hash = b.hash then
      return (a, b) :: (← walkBack? cells i j)
    else
      let above ← read? limit right cells i (j + 1)
      let before ← read? limit right cells (i + 1) j
      if above > before then walkBack? cells i (j + 1) else walkBack? cells (i + 1) j
  | 0, _ => some []
  | _ + 1, 0 => some []

/-- A longest common subsequence by way of a table, if no check fails. -/
def searchTable? : Option Alignment := do
  let cells ← fillTable? limit left right
  let pairs ← walkBack? limit left right cells left.length right.length
  return ⟨pairs.reverse⟩

end Search

/-! ## Beginnings -/

section Beginnings

variable {left right : List KGram} {a b : KGram} {i j : Nat}

/-- The best alignment of the first `i` with the first `j` k-grams, the last pair first. -/
def beginnings (left right : List KGram) (i j : Nat) : Cell :=
  best (left.take i).reverse (right.take j).reverse

@[simp, grind =] theorem beginnings_zero_left : beginnings left right 0 j = .empty := by
  simp [beginnings, best]

@[simp, grind =] theorem beginnings_zero_right : beginnings left right i 0 = .empty := by
  simp [beginnings]

theorem beginnings_length :
    beginnings left right left.length right.length = best left.reverse right.reverse := by
  rw [beginnings, List.take_length, List.take_length]

/-- The recurrence of the table: a shared hash extends the diagonal cell, else the longer neighbor
wins, and a tie goes to the cell before it in the row. -/
theorem beginnings_succ (ha : left[i]? = some a) (hb : right[j]? = some b) :
    beginnings left right (i + 1) (j + 1) =
      if a.hash = b.hash then (beginnings left right i j).cons (a, b)
      else
        let above := beginnings left right i (j + 1)
        let before := beginnings left right (i + 1) j
        if above.length > before.length then above else before := by
  have hleft : (left.take (i + 1)).reverse = a :: (left.take i).reverse := by
    rw [List.take_add_one, ha, Option.toList_some, List.reverse_append]
    rfl
  have hright : (right.take (j + 1)).reverse = b :: (right.take j).reverse := by
    rw [List.take_add_one, hb, Option.toList_some, List.reverse_append]
    rfl
  simp only [beginnings, hleft, hright]
  rw [best]

/-- A cell never exceeds the shorter of the two sides, so it fits 32 bits where that length does. -/
theorem length_beginnings_le (i j : Nat) :
    (beginnings left right i j).length ≤ min left.length right.length := by
  obtain ⟨hsource, htarget, -⟩ :=
    commonSubsequence_best (left.take i).reverse (right.take j).reverse
  have hleft := hsource.length_le
  have hright := htarget.length_le
  rw [List.length_map, List.length_reverse, length_pairs_best, List.length_take] at hleft hright
  exact le_min (hleft.trans (min_le_right _ _)) (hright.trans (min_le_right _ _))

end Beginnings

/-! ## Filling the table -/

section Filling

variable {limit : Nat} {left right : List KGram} {cells : Array Nat} {i j m n : Nat}

/-- Cells of one table have different addresses. -/
theorem address_inj (hj : j ≤ right.length) (hn : n ≤ right.length) :
    address right i j = address right m n ↔ i = m ∧ j = n := by
  constructor
  · intro h
    have hdiv (i j : Nat) (hj : j ≤ right.length) : address right i j / (right.length + 1) = i := by
      rw [address, Nat.mul_comm, Nat.mul_add_div (Nat.succ_pos _),
        Nat.div_eq_of_lt (Nat.lt_succ_of_le hj), Nat.add_zero]
    have him : i = m := by rw [← hdiv i j hj, h, hdiv m n hn]
    subst him
    exact ⟨rfl, Nat.add_left_cancel h⟩
  · rintro ⟨rfl, rfl⟩
    rfl

@[grind →] theorem address_lt (hi : i ≤ left.length) (hj : j ≤ right.length) :
    address right i j < (left.length + 1) * (right.length + 1) := by
  calc address right i j < i * (right.length + 1) + (right.length + 1) := by
        rw [address]
        omega
    _ = (i + 1) * (right.length + 1) := (Nat.succ_mul _ _).symm
    _ ≤ (left.length + 1) * (right.length + 1) := Nat.mul_le_mul_right _ (by omega)

/-- The rows up to row `i` are filled, and the next row up to column `j`. -/
structure Filled (left right : List KGram) (cells : Array Nat) (i j : Nat) : Prop where
  size : cells.size = (left.length + 1) * (right.length + 1)
  cell : ∀ m n, m ≤ left.length → n ≤ right.length → (m ≤ i ∨ n = 0 ∨ m = i + 1 ∧ n ≤ j) →
    cells[address right m n]? = some (beginnings left right m n).length

theorem filled_replicate :
    Filled left right (Array.replicate ((left.length + 1) * (right.length + 1)) 0) 0 0 where
  size := Array.size_replicate
  cell m n hm hn h := by
    have hzero : (beginnings left right m n).length = 0 := by
      rcases h with h | h | h
      · simp [Nat.le_zero.1 h, Cell.empty]
      · simp [h, Cell.empty]
      · simp [Nat.le_zero.1 h.2, Cell.empty]
    rw [hzero, Array.getElem?_replicate, if_pos (address_lt hm hn)]

/-- No address reaches the size of the table. -/
theorem below?_address (hlimit : (left.length + 1) * (right.length + 1) < limit)
    (hi : i ≤ left.length) (hj : j ≤ right.length) :
    below? limit (address right i j) = some (address right i j) :=
  if_pos ((address_lt hi hj).trans hlimit)

/-- Reading an address that is already filled gives the length the recurrence says. -/
theorem Filled.read?_eq (h : Filled left right cells i j)
    (hlimit : (left.length + 1) * (right.length + 1) < limit) (hm : m ≤ left.length)
    (hn : n ≤ right.length) (hmn : m ≤ i ∨ n = 0 ∨ m = i + 1 ∧ n ≤ j) :
    read? limit right cells m n = some (beginnings left right m n).length := by
  rw [read?, below?_address hlimit hm hn]
  exact h.cell m n hm hn hmn

/-- One more cell of a row. -/
theorem Filled.write (h : Filled left right cells i j) (hi : i < left.length)
    (hj : j < right.length) :
    ∃ cells', write? cells (address right (i + 1) (j + 1))
        (beginnings left right (i + 1) (j + 1)).length = some cells' ∧
      Filled left right cells' i (j + 1) := by
  have hlt : address right (i + 1) (j + 1) < cells.size := h.size ▸ address_lt hi hj
  refine ⟨_, dif_pos hlt, ?_, ?_⟩
  · rw [Array.size_set, h.size]
  · intro m n hm hn hmn
    rw [Array.getElem?_set]
    split
    · next heq =>
      obtain ⟨rfl, rfl⟩ := (address_inj hj hn).1 heq
      rfl
    · next hne =>
      -- Any other cell has been filled before.
      have hother : ¬ (i + 1 = m ∧ j + 1 = n) := fun h => hne (by rw [h.1, h.2])
      exact h.cell m n hm hn (by omega)

/-- Filling one cell succeeds and moves the filled part one column on. -/
theorem Filled.exists_fillCell? (h : Filled left right cells i j) (hi : i < left.length)
    (hj : j < right.length) (hlen : min left.length right.length < UInt32.size)
    (hlimit : (left.length + 1) * (right.length + 1) < limit) :
    ∃ cells', fillCell? limit left right cells i j = some cells' ∧
      Filled left right cells' i (j + 1) := by
  have ha : left[i]? = some left[i] := List.getElem?_eq_getElem hi
  have hb : right[j]? = some right[j] := List.getElem?_eq_getElem hj
  have hhere : below? limit (address right (i + 1) (j + 1)) = _ := below?_address hlimit hi hj
  have hnext := h.write hi hj
  simp only [fillCell?, ha, hb, hhere, Option.bind_eq_bind, Option.bind_some]
  rw [beginnings_succ ha hb] at hnext
  by_cases hab : left[i].hash = right[j].hash
  · rw [if_pos hab] at hnext ⊢
    have hsmall : (beginnings left right i j).length + 1 < UInt32.size := by
      have hle := @length_beginnings_le left right (i + 1) (j + 1)
      rw [beginnings_succ ha hb, if_pos hab] at hle
      exact hle.trans_lt hlen
    rw [h.read?_eq hlimit (by omega) (by omega) (by omega), Option.bind_some, next32?,
      if_pos hsmall]
    exact hnext
  · rw [if_neg hab] at hnext ⊢
    -- The longer of the two has the larger length.
    have hmax (p q : Cell) : (if p.length > q.length then p else q).length =
        max p.length q.length := by
      split <;> omega
    rw [hmax] at hnext
    rw [h.read?_eq hlimit (by omega) (by omega) (by omega),
      h.read?_eq hlimit (by omega) (by omega) (by omega), Option.bind_some, Option.bind_some]
    exact hnext

/-- What one pass of a loop keeps holds when the loop has ended. -/
theorem exists_foldlM_range {α : Type} {f : α → Nat → Option α} {P : Nat → α → Prop} {a : α}
    (hzero : P 0 a) (hstep : ∀ i a, i < n → P i a → ∃ b, f a i = some b ∧ P (i + 1) b) :
    ∃ b, (List.range n).foldlM f a = some b ∧ P n b := by
  induction n with
  | zero => exact ⟨a, rfl, hzero⟩
  | succ n ih =>
    obtain ⟨b, hb, hn⟩ := ih fun i a hi => hstep i a (by omega)
    obtain ⟨c, hc, hsucc⟩ := hstep n b (by omega) hn
    refine ⟨c, ?_, hsucc⟩
    rw [List.range_succ, List.foldlM_append, hb]
    simpa using hc

theorem Filled.exists_fillRow? (h : Filled left right cells i 0) (hi : i < left.length)
    (hlen : min left.length right.length < UInt32.size)
    (hlimit : (left.length + 1) * (right.length + 1) < limit) :
    ∃ cells', fillRow? limit left right cells i = some cells' ∧
      Filled left right cells' (i + 1) 0 := by
  obtain ⟨cells', hrow, hfilled⟩ := exists_foldlM_range (P := fun j c => Filled left right c i j) h
    fun j c hj hc => hc.exists_fillCell? hi hj hlen hlimit
  refine ⟨cells', hrow, hfilled.size, fun m n hm hn hmn => ?_⟩
  exact hfilled.cell m n hm hn (by omega)

/-- No check fails while the table is filled. -/
theorem exists_fillTable? (hlen : min left.length right.length < UInt32.size)
    (hlimit : (left.length + 1) * (right.length + 1) < limit) :
    ∃ cells, fillTable? limit left right = some cells ∧ Filled left right cells left.length 0 := by
  rw [fillTable?, below?, if_pos hlimit]
  exact exists_foldlM_range (P := fun i cells => Filled left right cells i 0) filled_replicate
    fun _ _ hi h => h.exists_fillRow? hi hlen hlimit

/-! ## The walk back -/

/-- The walk ends, and finds the best alignment. -/
theorem Filled.walkBack?_eq (h : Filled left right cells left.length 0)
    (hlimit : (left.length + 1) * (right.length + 1) < limit) (hi : i ≤ left.length)
    (hj : j ≤ right.length) :
    walkBack? limit left right cells i j = some (beginnings left right i j).pairs := by
  fun_induction walkBack? limit left right cells i j with
  | case1 i j ih₁ ih₂ ih₃ =>
    have ha : left[i]? = some left[i] := List.getElem?_eq_getElem hi
    have hb : right[j]? = some right[j] := List.getElem?_eq_getElem hj
    have habove := h.read?_eq (m := i) (n := j + 1) hlimit (by omega) hj (by omega)
    have hbefore := h.read?_eq (m := i + 1) (n := j) hlimit hi (by omega) (by omega)
    simp only [ha, hb, habove, hbefore, Option.bind_eq_bind, Option.bind_some,
      ih₁ (by omega) (by omega), ih₂ (by omega) hj, ih₃ hi (by omega), beginnings_succ ha hb]
    split
    · rfl
    · split <;> rfl
  | case2 j => simp [Cell.empty]
  | case3 i => simp [Cell.empty]

/-- Within the bounds the checked search on the flat table gives the pairs of `longestCommon`. -/
theorem searchTable?_eq (hlen : min left.length right.length < UInt32.size)
    (hlimit : (left.length + 1) * (right.length + 1) < limit) :
    searchTable? limit left right = some (longestCommon left right) := by
  obtain ⟨cells, hcells, hfilled⟩ := exists_fillTable? hlen hlimit
  have hpairs := hfilled.walkBack?_eq hlimit le_rfl le_rfl
  rw [beginnings_length] at hpairs
  rw [searchTable?, hcells, Option.bind_eq_bind, Option.bind_some, hpairs, Option.bind_eq_bind,
    Option.bind_some, ← pairs_longestCommon]
  rfl

end Filling

end Alignment

def KGram.SameHash (a b : KGram) : Prop := a.hash = b.hash

namespace CommonSubsequence

variable {left right as bs : List KGram} {ps : List (KGram × KGram)}

@[grind →] theorem forall₂_sameHash (h : CommonSubsequence left right ps) :
    List.Forall₂ KGram.SameHash (ps.map Prod.fst) (ps.map Prod.snd) := by
  rw [List.forall₂_map_left_iff, List.forall₂_map_right_iff, List.forall₂_same]
  exact h.hash

/-- Two subsequences with the same hashes, put together in pairs. -/
theorem of_forall₂ (has : as.Sublist left) (hbs : bs.Sublist right)
    (h : List.Forall₂ KGram.SameHash as bs) : CommonSubsequence left right (as.zip bs) where
  source := by rwa [List.map_fst_zip h.length_eq.le]
  target := by rwa [List.map_snd_zip h.length_eq.ge]
  hash := fun p hp => (List.forall₂_iff_zip.1 h).2 hp

end CommonSubsequence

/-- The alignment of two lists is a subsequence of either, with the same hashes one by one, and no
two subsequences with the same hashes are longer. As much is aligned when the lists are exchanged,
and lists with the same hashes are aligned entirely. If one of the lists has less than `2 ^ 32`
k-grams, the search through a table ends without a failed check and finds the same alignment. -/
theorem longestCommon_subsequence {left right : List KGram}
    (hlen : min left.length right.length < UInt32.size) :
    let aligned := longestCommon left right
    aligned.source.Sublist left ∧ aligned.target.Sublist right ∧
      List.Forall₂ KGram.SameHash aligned.source aligned.target ∧
      (∀ as bs, as.Sublist left → bs.Sublist right → List.Forall₂ KGram.SameHash as bs →
        as.length ≤ aligned.source.length) ∧
      (longestCommon right left).source.length = aligned.source.length ∧
      (left.map KGram.hash = right.map KGram.hash →
        aligned.source = left ∧ aligned.target = right) ∧
      ∀ limit, (left.length + 1) * (right.length + 1) < limit →
        searchTable? limit left right = some aligned := by
  intro aligned
  obtain ⟨hcommon, hlongest⟩ := longestCommon_longest left right
  refine ⟨hcommon.source, hcommon.target, hcommon.forall₂_sameHash, ?_, ?_, ?_,
    fun _ => searchTable?_eq hlen⟩
  · intro as bs has hbs h
    have hle := hlongest _ (.of_forall₂ has hbs h)
    rw [List.length_zip, ← h.length_eq, min_self] at hle
    simpa [aligned, source] using hle
  · simpa [aligned, source] using length_longestCommon_comm left right
  · intro hhash
    have hpairs := longestCommon_of_map_hash_eq hhash
    have heq : left.length = right.length := by simpa using congrArg List.length hhash
    constructor
    · rw [source, hpairs, List.map_fst_zip heq.le]
    · rw [target, hpairs, List.map_snd_zip heq.ge]

/-- One k-gram has been replaced, another one has been put in, and the four others are aligned. -/
theorem longestCommon_subsequence_edits :
    let kgram (position hash : Nat) : KGram := ⟨hash, position, ⟨⟨position, 1⟩, ⟨position, 9⟩⟩⟩
    let left := [1, 2, 9, 3, 4].zipIdx.map fun (hash, i) => kgram i hash
    let right := [1, 2, 3, 8, 4].zipIdx.map fun (hash, i) => kgram i hash
    let aligned := longestCommon left right
    min left.length right.length < UInt32.size ∧
      aligned.source.map KGram.position = [0, 1, 3, 4] ∧
      aligned.target.map KGram.position = [0, 1, 2, 4] ∧
      searchTable? (2 ^ 64) left right = some aligned ∧
      ∀ as bs, as.Sublist left → bs.Sublist right → List.Forall₂ KGram.SameHash as bs →
        as.length ≤ 4 := by
  intro kgram left right aligned
  have hlen : min left.length right.length < UInt32.size := by decide
  have hsource : aligned.source.map KGram.position = [0, 1, 3, 4] := by decide
  have hfour : aligned.source.length = 4 := by simpa using congrArg List.length hsource
  obtain ⟨-, -, -, hlongest, -, -, htable⟩ := longestCommon_subsequence hlen
  exact ⟨hlen, hsource, by decide, htable _ (by decide),
    fun as bs has hbs h => hfour ▸ hlongest as bs has hbs h⟩

end Lookalike
