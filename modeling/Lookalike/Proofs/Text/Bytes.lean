import Lookalike.Text.Bytes
import Mathlib.Data.List.Infix

/-!
# Offsets between characters

An offset that cuts no character cuts the text in two. Between two such offsets the slice of the
text is what is left when the characters before the first and after the second are taken away.

In UTF-8 every character takes as many bytes as it counts for, and a byte below 128 is in no
character but its own.

## Main definitions

* `IsBoundary` — the offset cuts no character.

## Main statements

* `exists_eq_append_of_isBoundary` — two offsets cut a text in three.
* `slice?_append` — the slice between them.
* `mem_utf8EncodeChar_iff` — bytes below 128.
* `count_flatMap_utf8EncodeChar` — line feeds among the bytes of a text.
-/

namespace Lookalike

variable {cs xs ys zs : List Char} {m n : Nat}

@[simp, grind =] theorem byteLength_nil : byteLength [] = 0 := rfl

@[simp, grind =] theorem byteLength_cons (c : Char) (cs : List Char) :
    byteLength (c :: cs) = c.utf8Size + byteLength cs := rfl

@[simp, grind =] theorem byteLength_append (xs ys : List Char) :
    byteLength (xs ++ ys) = byteLength xs + byteLength ys := by
  induction xs with
  | nil => simp
  | cons c cs ih => simp [ih, Nat.add_assoc]

@[simp] theorem length_le_byteLength (cs : List Char) : cs.length ≤ byteLength cs := by
  induction cs with
  | nil => simp
  | cons c cs ih =>
    have := c.utf8Size_pos
    simp only [List.length_cons, byteLength_cons]
    omega

@[simp] theorem byteLength_eq_zero : byteLength cs = 0 ↔ cs = [] := by
  refine ⟨fun h => List.eq_nil_of_length_eq_zero ?_, fun h => h ▸ rfl⟩
  have := length_le_byteLength cs
  omega

@[simp] theorem byteLength_toList (s : String) : byteLength s.toList = s.utf8ByteSize := by
  suffices ∀ cs, byteLength cs = (String.ofList cs).utf8ByteSize by rw [this, String.ofList_toList]
  intro cs
  induction cs with
  | nil => rfl
  | cons c cs ih =>
    rw [← List.singleton_append, String.ofList_append, ← String.singleton_eq_ofList,
      String.utf8ByteSize_append, String.utf8ByteSize_singleton, ← ih]
    simp

/-- The offset is before all characters, between two of them, or after all. -/
def IsBoundary (cs : List Char) (n : Nat) : Prop :=
  ∃ before after, cs = before ++ after ∧ byteLength before = n

@[simp] theorem isBoundary_append (xs ys : List Char) : IsBoundary (xs ++ ys) (byteLength xs) :=
  ⟨xs, ys, rfl, rfl⟩

theorem isBoundary_cons {c : Char} :
    IsBoundary (c :: cs) n ↔ n = 0 ∨ c.utf8Size ≤ n ∧ IsBoundary cs (n - c.utf8Size) := by
  constructor
  · rintro ⟨before, after, h, rfl⟩
    cases before with
    | nil => exact .inl rfl
    | cons d ds =>
      obtain ⟨rfl, rfl⟩ := List.cons.inj h
      exact .inr ⟨by simp, by simp⟩
  · rintro (rfl | ⟨hle, before, after, rfl, h⟩)
    · exact ⟨[], c :: cs, rfl, rfl⟩
    · exact ⟨c :: before, after, rfl, by simp; omega⟩

instance decidableIsBoundary : ∀ (cs : List Char) (n : Nat), Decidable (IsBoundary cs n)
  | [], n => decidable_of_iff (n = 0) (by simp [IsBoundary, eq_comm])
  | c :: cs, n =>
    have := decidableIsBoundary cs (n - c.utf8Size)
    decidable_of_iff _ isBoundary_cons.symm

/-- Two boundaries cut a text into three parts. -/
theorem exists_eq_append_of_isBoundary (hm : IsBoundary cs m) (hn : IsBoundary cs n) (h : m ≤ n) :
    ∃ xs ys zs, cs = xs ++ ys ++ zs ∧ byteLength xs = m ∧ byteLength (xs ++ ys) = n := by
  obtain ⟨xs, _, rfl, rfl⟩ := hm
  obtain ⟨ws, zs, hcs, rfl⟩ := hn
  rcases List.prefix_or_prefix_of_prefix ⟨_, rfl⟩ ⟨_, hcs.symm⟩ with ⟨ys, rfl⟩ | ⟨ys, rfl⟩
  · exact ⟨xs, ys, zs, hcs, rfl, rfl⟩
  · obtain rfl : ys = [] := byteLength_eq_zero.1 (by rw [byteLength_append] at h; omega)
    exact ⟨ws, [], zs, by simpa using hcs, by simp, by simp⟩

/-! ## Slices -/

@[simp] theorem dropBytes?_cons (c : Char) (cs : List Char) (n : Nat) :
    dropBytes? (c.utf8Size + n) (c :: cs) = dropBytes? n cs := by
  obtain ⟨k, hk⟩ := Nat.exists_eq_succ_of_ne_zero c.utf8Size_pos.ne'
  rw [show c.utf8Size + n = k + n + 1 by omega, dropBytes?, if_pos (by omega)]
  congr 1
  omega

@[simp] theorem takeBytes?_cons (c : Char) (cs : List Char) (n : Nat) :
    takeBytes? (c.utf8Size + n) (c :: cs) = (takeBytes? n cs).map (c :: ·) := by
  obtain ⟨k, hk⟩ := Nat.exists_eq_succ_of_ne_zero c.utf8Size_pos.ne'
  rw [show c.utf8Size + n = k + n + 1 by omega, takeBytes?, if_pos (by omega)]
  congr 2
  omega

@[simp] theorem dropBytes?_append (xs ys : List Char) :
    dropBytes? (byteLength xs) (xs ++ ys) = some ys := by
  induction xs with
  | nil => simp [dropBytes?]
  | cons c cs ih => rw [byteLength_cons, List.cons_append, dropBytes?_cons, ih]

@[simp] theorem takeBytes?_append_add (xs ys : List Char) (n : Nat) :
    takeBytes? (byteLength xs + n) (xs ++ ys) = (takeBytes? n ys).map (xs ++ ·) := by
  induction xs with
  | nil => simp
  | cons c cs ih =>
    rw [byteLength_cons, Nat.add_assoc, List.cons_append, takeBytes?_cons, ih, Option.map_map]
    rfl

@[simp] theorem takeBytes?_append (xs ys : List Char) :
    takeBytes? (byteLength xs) (xs ++ ys) = some xs := by
  simpa [takeBytes?] using takeBytes?_append_add xs ys 0

/-- The slice between two boundaries is the part of the text between them. -/
theorem slice?_append (xs ys zs : List Char) :
    slice? (xs ++ ys ++ zs) (byteLength xs) (byteLength (xs ++ ys)) = some ys := by
  simp [slice?]

/-! ## Bytes -/

@[grind =] theorem length_flatMap_utf8EncodeChar (cs : List Char) :
    (cs.flatMap String.utf8EncodeChar).length = byteLength cs := by
  induction cs with
  | nil => rfl
  | cons c cs ih => simp [ih, String.length_utf8EncodeChar]

/-- A byte below 128 is in no character but the one that it is alone. -/
theorem mem_utf8EncodeChar_iff {b : UInt8} {c : Char} (hb : b.toNat < 128) :
    b ∈ String.utf8EncodeChar c ↔ c.val.toNat = b.toNat := by
  have hbyte (n : Nat) : b = UInt8.ofNat n ↔ n % 256 = b.toNat := by
    rw [← UInt8.toNat_inj, UInt8.toNat_ofNat', eq_comm]
  -- All bytes of a character that takes several are at least 128.
  simp only [String.utf8EncodeChar]
  generalize c.val.toNat = n
  split_ifs <;> simp only [List.mem_cons, List.not_mem_nil, or_false, hbyte] <;> omega

@[simp] theorem count_utf8EncodeChar (c : Char) :
    (String.utf8EncodeChar c).count 10 = if c = '\n' then 1 else 0 := by
  by_cases hc : c = '\n'
  · rw [if_pos hc, hc]
    rfl
  rw [if_neg hc, List.count_eq_zero, mem_utf8EncodeChar_iff (by decide)]
  rwa [← Char.val_inj, ← UInt32.toNat_inj] at hc

/-- The line feeds of an encoded text are those of the text, for no other character has that
byte. -/
@[simp, grind =] theorem count_flatMap_utf8EncodeChar (cs : List Char) :
    (cs.flatMap String.utf8EncodeChar).count 10 = cs.count '\n' := by
  induction cs with
  | nil => rfl
  | cons c cs ih =>
    rw [List.flatMap_cons, List.count_append, ih, count_utf8EncodeChar, List.count_cons,
      Nat.add_comm]
    simp

end Lookalike
