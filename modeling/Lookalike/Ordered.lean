/-!
# Lists in ascending order of a key

Lists without two entries of the same key, kept in ascending order of it. They stand for finite
maps and sets whose order shows in answers.

## Main definitions

* `Ordered.insert` — puts an entry in its place unless its key is taken.
* `Ordered.ofList` — all entries of a list; of several with one key the last stays.

## Main statements

* `Ordered.ascending_ofList` — the keys of `ofList` strictly ascend.
-/

namespace Lookalike.Ordered

variable {α κ : Type} [LE κ] [LT κ] [DecidableLT κ]

def Ascending (key : α → κ) (xs : List α) : Prop :=
  xs.Pairwise fun a b => key a < key b

/-- Puts an entry in its place unless its key is taken. -/
def insert (key : α → κ) (x : α) : List α → List α
  | [] => [x]
  | y :: ys =>
    if key x < key y then x :: y :: ys
    else if key y < key x then y :: insert key x ys
    else y :: ys

/-- The entries in ascending order of their keys; of several with one key the last stays. -/
def ofList (key : α → κ) (xs : List α) : List α := xs.foldr (insert key) []

omit [LE κ] in
@[grind →] theorem mem_of_mem_insert {key : α → κ} {x a : α} {xs : List α}
    (h : a ∈ insert key x xs) : a = x ∨ a ∈ xs := by
  induction xs with
  | nil => simpa [insert] using h
  | cons y ys ih => grind [insert]

/-- Inserting keeps the keys strictly ascending, whether the key is new or already there. -/
theorem Ascending.insert [Std.IsLinearOrder κ] [Std.LawfulOrderLT κ] {key : α → κ} {x : α}
    {xs : List α} (h : Ascending key xs) : Ascending key (insert key x xs) := by
  induction xs with
  | nil => simp [Ordered.insert, Ascending]
  | cons y ys ih =>
    obtain ⟨hy, hys⟩ := List.pairwise_cons.1 h
    rw [Ordered.insert]
    split
    · rename_i hxy
      exact List.pairwise_cons.2 ⟨fun a ha => by
        rcases List.mem_cons.1 ha with rfl | ha
        · exact hxy
        · exact Std.lt_trans hxy (hy a ha), h⟩
    · split
      · rename_i hyx
        exact List.pairwise_cons.2 ⟨fun a ha => by
          rcases mem_of_mem_insert ha with rfl | ha
          · exact hyx
          · exact hy a ha, ih hys⟩
      · exact h

/-- A list built by insertions has strictly ascending keys, hence each key once. -/
@[simp] theorem ascending_ofList [Std.IsLinearOrder κ] [Std.LawfulOrderLT κ] (key : α → κ)
    (xs : List α) : Ascending key (ofList key xs) := by
  induction xs with
  | nil => exact List.Pairwise.nil
  | cons x xs ih => exact Ascending.insert ih

end Lookalike.Ordered
