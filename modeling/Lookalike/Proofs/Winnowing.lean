import Lookalike.Proofs.RollingHash
import Mathlib.Data.List.Forall2
import Mathlib.Data.List.Nodup

/-!
# Winnowing

What winnowing keeps of a list of k-grams only depends on their hashes and on the order of their
positions. Every window leaves one of its k-grams behind, so no k-gram is far from a fingerprint.

## Main definitions

* `Numbered` — the positions of k-grams are their places in the list.
* `KGram.Faithful` — a relation of k-grams that respects hashes and the order of positions.

## Main statements

* `forall₂_winnow` — related lists have related fingerprints.
* `exists_mem_winnow_near` — a fingerprint is near to each two neighbours.
* `exists_mem_winnow_of_windows` — related windows leave related fingerprints.
-/

open scoped Relator

namespace Lookalike

/-! ## Ordered lists -/

namespace Ordered

variable {α β κ : Type} [LinearOrder κ] {key : α → κ}

@[grind →] theorem mem_of_mem_ofList {a : α} {xs : List α} (h : a ∈ ofList key xs) : a ∈ xs := by
  induction xs with
  | nil => exact h
  | cons x xs ih =>
    rcases mem_of_mem_insert h with rfl | h
    · exact List.mem_cons_self
    · exact List.mem_cons_of_mem x (ih h)

theorem mem_insert {x a : α} {ys : List α} (h : ∀ y ∈ ys, key y = key x → y = x) :
    a ∈ insert key x ys ↔ a = x ∨ a ∈ ys := by
  induction ys with
  | nil => simp [insert]
  | cons y ys ih =>
    rw [List.forall_mem_cons] at h
    rw [insert]
    split_ifs with hlt hgt
    · simp
    · simp only [List.mem_cons, ih h.2]
      exact or_left_comm
    · have hy : y = x := h.1 (le_antisymm (not_lt.1 hlt) (not_lt.1 hgt))
      simp [hy]

/-- If no two entries have one key, none is left out. -/
theorem mem_ofList {xs : List α} (h : ∀ x ∈ xs, ∀ y ∈ xs, key x = key y → x = y) (a : α) :
    a ∈ ofList key xs ↔ a ∈ xs := by
  induction xs generalizing a with
  | nil => rfl
  | cons x xs ih =>
    rw [List.forall_mem_cons] at h
    replace ih := ih fun y hy z hz => h.2 y hy z (List.mem_cons_of_mem x hz)
    have hins : a ∈ ofList key (x :: xs) ↔ a = x ∨ a ∈ ofList key xs :=
      mem_insert fun y hy => h.2 y ((ih y).1 hy) x List.mem_cons_self
    rw [hins, ih, List.mem_cons]

variable {key' : β → κ} {R : α → β → Prop}

theorem forall₂_insert
    (hR : ∀ a b c d, R a b → R c d → (key a < key c ↔ key' b < key' d)) {x : α} {y : β}
    {xs : List α} {ys : List β} (hxy : R x y) (h : List.Forall₂ R xs ys) :
    List.Forall₂ R (insert key x xs) (insert key' y ys) := by
  induction h with
  | nil => exact .cons hxy .nil
  | cons hab h ih =>
    simp only [insert, hR _ _ _ _ hxy hab, hR _ _ _ _ hab hxy]
    split_ifs
    · exact .cons hxy (.cons hab h)
    · exact .cons hab ih
    · exact .cons hab h

/-- Keys that compare alike on both sides lead to related collections. -/
theorem forall₂_ofList
    (hR : ∀ a b c d, R a b → R c d → (key a < key c ↔ key' b < key' d)) {xs : List α}
    {ys : List β} (h : List.Forall₂ R xs ys) :
    List.Forall₂ R (ofList key xs) (ofList key' ys) := by
  induction h with
  | nil => exact .nil
  | cons hab _ ih => exact forall₂_insert hR hab ih

end Ordered

/-! ## Related k-grams -/

/-- Related k-grams have equal hashes, and their positions come in the same order. -/
structure KGram.Faithful (R : KGram → KGram → Prop) : Prop where
  hash {a b : KGram} : R a b → a.hash = b.hash
  position_lt {a b c d : KGram} :
    R a b → R c d → (a.position < c.position ↔ b.position < d.position)

section Related

variable {R : KGram → KGram → Prop} {gs hs : List KGram} {w : Nat}

theorem KGram.Faithful.better (hR : KGram.Faithful R) {a b c d : KGram} (hab : R a b)
    (hcd : R c d) : R (a.better c) (b.better d) := by
  simp only [KGram.better, hR.hash hab, hR.hash hcd, hR.position_lt hab hcd]
  split_ifs
  · exact hcd
  · exact hab

theorem rel_windowMinimum (hR : KGram.Faithful R) (h : List.Forall₂ R gs hs) :
    Option.Rel R (windowMinimum gs) (windowMinimum hs) := by
  cases h with
  | nil => exact .none
  | cons hab h =>
    have hstep : (R ⇒ R ⇒ R) KGram.better KGram.better := fun _ _ hab _ _ hcd =>
      hR.better hab hcd
    exact .some (List.rel_foldl hstep hab h)

theorem rel_firstMinimum (hR : KGram.Faithful R) (h : List.Forall₂ R gs hs) :
    Option.Rel R (firstMinimum gs) (firstMinimum hs) := by
  cases h with
  | nil => exact .none
  | cons hab h =>
    refine .some (List.rel_foldl (P := R) (fun a b hab c d hcd => ?_) hab h)
    rw [hR.hash hab, hR.hash hcd]
    split_ifs
    · exact hcd
    · exact hab

theorem forall₂_windowsFrom (w count : Nat) (h : List.Forall₂ R gs hs) :
    List.Forall₂ (List.Forall₂ R) (windowsFrom w count gs) (windowsFrom w count hs) := by
  induction count generalizing gs hs with
  | zero => exact .nil
  | succ count ih =>
    refine .cons (List.forall₂_take w h) (ih ?_)
    cases h with
    | nil => exact .nil
    | cons _ h => exact h

theorem forall₂_windows (w : Nat) (h : List.Forall₂ R gs hs) :
    List.Forall₂ (List.Forall₂ R) (windows w gs) (windows w hs) := by
  rw [windows, windows, h.length_eq]
  exact forall₂_windowsFrom w _ h

/-- Related lists of k-grams have related fingerprints. -/
theorem forall₂_winnow (hR : KGram.Faithful R) (h : List.Forall₂ R gs hs) (w : Nat) :
    List.Forall₂ R (winnow gs w).toList (winnow hs w).toList := by
  have hpos (a b c d : KGram) : R a b → R c d → (a.position < c.position ↔ _) := hR.position_lt
  simp only [winnow, h.length_eq]
  split_ifs
  · exact .nil
  · have hmin := rel_firstMinimum hR h
    refine Ordered.forall₂_ofList hpos ?_
    generalize firstMinimum gs = a, firstMinimum hs = b at hmin
    cases hmin with
    | none => exact .nil
    | some hab => exact .cons hab .nil
  · exact Ordered.forall₂_ofList hpos
      (List.rel_filterMap (fun _ _ h => rel_windowMinimum hR h) (forall₂_windows w h))

end Related

/-! ## Minima -/

section Minima

variable {gs : List KGram} {g : KGram}

theorem foldl_mem {α : Type} {f : α → α → α} (hf : ∀ a b, f a b = a ∨ f a b = b) (x : α)
    (xs : List α) : xs.foldl f x ∈ x :: xs := by
  induction xs generalizing x with
  | nil => exact List.mem_cons_self
  | cons y xs ih =>
    rw [List.foldl_cons]
    rcases List.mem_cons.1 (ih (f x y)) with h | h
    · rw [h]
      rcases hf x y with hx | hy <;> simp [*]
    · exact List.mem_cons_of_mem x (List.mem_cons_of_mem y h)

@[grind →] theorem mem_of_windowMinimum (h : windowMinimum gs = some g) : g ∈ gs := by
  cases gs with
  | nil => simp [windowMinimum] at h
  | cons a gs =>
    rw [← Option.some.inj h]
    refine foldl_mem (fun a b => ?_) a gs
    rw [KGram.better]
    split_ifs <;> simp

@[grind →] theorem mem_of_firstMinimum (h : firstMinimum gs = some g) : g ∈ gs := by
  cases gs with
  | nil => simp [firstMinimum] at h
  | cons a gs =>
    rw [← Option.some.inj h]
    refine foldl_mem (fun a b => ?_) a gs
    split_ifs <;> simp

/-- A window with members has a minimum. -/
theorem exists_windowMinimum (h : gs ≠ []) : ∃ g, windowMinimum gs = some g := by
  cases gs with
  | nil => contradiction
  | cons a gs => exact ⟨_, rfl⟩

theorem exists_firstMinimum (h : gs ≠ []) : ∃ g, firstMinimum gs = some g := by
  cases gs with
  | nil => contradiction
  | cons a gs => exact ⟨_, rfl⟩

end Minima

@[simp] theorem Fingerprints.pairwise_positions (f : Fingerprints) :
    (f.toList.map KGram.position).Pairwise (· < ·) := List.pairwise_map.2 f.ascending

/-! ## Fingerprints of numbered k-grams -/

/-- The positions of the k-grams are their places in the list. -/
def Numbered (gs : List KGram) : Prop := gs.map KGram.position = List.range gs.length

/-- The k-grams of a file stand at the positions they carry. -/
@[simp] theorem kgrams_numbered (tokens : List Token) (k : Nat) : Numbered (kgrams tokens k) := by
  rw [Numbered, kgrams]
  split_ifs
  · rfl
  · simp [Function.comp_def, List.range_eq_range']

section Numbered

variable {gs hs : List KGram} {g : KGram} {i j q w : Nat}

theorem Numbered.position (h : Numbered gs) (hg : gs[i]? = some g) : g.position = i := by
  have hi : (gs.map KGram.position)[i]? = some g.position := by rw [List.getElem?_map, hg]; rfl
  rw [h, List.getElem?_eq_some_iff] at hi
  obtain ⟨_, hi⟩ := hi
  rw [← hi, List.getElem_range]

@[grind →]
theorem Numbered.eq_of_position_eq (h : Numbered gs) {a b : KGram} (ha : a ∈ gs) (hb : b ∈ gs)
    (hab : a.position = b.position) : a = b :=
  List.inj_on_of_nodup_map (h ▸ List.nodup_range) ha hb hab

theorem Numbered.getElem?_position (h : Numbered gs) (hg : g ∈ gs) :
    gs[g.position]? = some g := by
  obtain ⟨i, hi⟩ := List.mem_iff_getElem?.1 hg
  rw [h.position hi, hi]

@[grind →] theorem Numbered.position_lt (h : Numbered gs) (hg : g ∈ gs) : g.position < gs.length :=
  (List.getElem?_eq_some_iff.1 (h.getElem?_position hg)).1

@[grind →] theorem Numbered.position_of_mem_window (h : Numbered gs) (hg : g ∈ (gs.drop i).take w) :
    i ≤ g.position ∧ g.position < i + w := by
  obtain ⟨j, hij, hj, hget⟩ := mem_window_iff.1 hg
  rw [h.position hget]
  exact ⟨hij, hj⟩

@[grind →]
theorem mem_of_mem_minima (hg : g ∈ (windows w gs).filterMap windowMinimum) : g ∈ gs := by
  obtain ⟨win, hwin, hmin⟩ := List.mem_filterMap.1 hg
  obtain ⟨i, -, rfl⟩ := mem_windows.1 hwin
  exact List.mem_of_mem_drop (List.mem_of_mem_take (mem_of_windowMinimum hmin))

/-- Winnowing keeps some of the k-grams and makes no new ones. -/
@[grind →] theorem mem_of_mem_winnow (hg : g ∈ (winnow gs w).toList) : g ∈ gs := by
  rw [winnow] at hg
  split_ifs at hg
  · simpa using Ordered.mem_of_mem_ofList hg
  · exact mem_of_firstMinimum (by simpa using Ordered.mem_of_mem_ofList hg)
  · exact mem_of_mem_minima (Ordered.mem_of_mem_ofList hg)

/-- Every window leaves its minimum behind. -/
theorem mem_winnow_of_windowMinimum (h : Numbered gs) (hw : 0 < w) (hi : i + w ≤ gs.length)
    (hg : windowMinimum ((gs.drop i).take w) = some g) : g ∈ (winnow gs w).toList := by
  have hinj : ∀ a ∈ (windows w gs).filterMap windowMinimum,
      ∀ b ∈ (windows w gs).filterMap windowMinimum, a.position = b.position → a = b :=
    fun a ha b hb => h.eq_of_position_eq (mem_of_mem_minima ha) (mem_of_mem_minima hb)
  rw [winnow, if_neg hw.ne', if_neg (by omega)]
  exact (Ordered.mem_ofList hinj g).2
    (List.mem_filterMap.2 ⟨_, mem_windows.2 ⟨i, hi, rfl⟩, hg⟩)

/-- Where windows fit, every fingerprint is the minimum of one. -/
theorem exists_window_of_mem_winnow (hw : 0 < w) (hle : w ≤ gs.length)
    (hg : g ∈ (winnow gs w).toList) :
    ∃ i, i + w ≤ gs.length ∧ windowMinimum ((gs.drop i).take w) = some g := by
  rw [winnow, if_neg hw.ne', if_neg (by omega)] at hg
  obtain ⟨win, hwin, hmin⟩ := List.mem_filterMap.1 (Ordered.mem_of_mem_ofList hg)
  obtain ⟨i, hi, rfl⟩ := mem_windows.1 hwin
  exact ⟨i, hi, hmin⟩

theorem exists_windowMinimum_drop (hw : 0 < w) (hi : i + w ≤ gs.length) :
    ∃ g, windowMinimum ((gs.drop i).take w) = some g :=
  exists_windowMinimum (List.ne_nil_of_length_pos (by
    rw [List.length_take, List.length_drop]; omega))

/-- Every window of `w` k-grams keeps one of them. -/
theorem exists_mem_winnow_window (h : Numbered gs) (hw : 0 < w) (hi : i + w ≤ gs.length) :
    ∃ g ∈ (winnow gs w).toList, i ≤ g.position ∧ g.position < i + w := by
  obtain ⟨g, hg⟩ := exists_windowMinimum_drop hw hi
  exact ⟨g, mem_winnow_of_windowMinimum h hw hi hg,
    h.position_of_mem_window (mem_of_windowMinimum hg)⟩

/-- A fingerprint is less than a window away from every k-gram. -/
theorem exists_mem_winnow_near (h : Numbered gs) (hw : 0 < w) (hq : q < gs.length) :
    ∃ g ∈ (winnow gs w).toList, g.position < q + w ∧ q < g.position + w := by
  by_cases hlt : gs.length < w
  · obtain ⟨g, hg⟩ := exists_firstMinimum (List.ne_nil_of_length_pos (by omega : 0 < gs.length))
    have hp := h.position_lt (mem_of_firstMinimum hg)
    refine ⟨g, ?_, by omega, by omega⟩
    rw [winnow, if_neg hw.ne', if_pos hlt, hg]
    exact List.mem_singleton_self g
  · have hmin : min q (gs.length - w) + w ≤ gs.length := by omega
    obtain ⟨g, hg, hle, hlt⟩ := exists_mem_winnow_window h hw hmin
    exact ⟨g, hg, by omega, by omega⟩

/-- Windows with the same hashes leave fingerprints at the same place of both. -/
theorem exists_mem_winnow_of_windows {R : KGram → KGram → Prop} (hR : KGram.Faithful R)
    (hgs : Numbered gs) (hhs : Numbered hs) (hw : 0 < w) (hi : i + w ≤ gs.length)
    (hj : j + w ≤ hs.length) (h : List.Forall₂ R ((gs.drop i).take w) ((hs.drop j).take w)) :
    ∃ g ∈ (winnow gs w).toList, ∃ g' ∈ (winnow hs w).toList,
      R g g' ∧ i ≤ g.position ∧ g.position < i + w := by
  obtain ⟨g, hg⟩ := exists_windowMinimum_drop hw hi
  have hmin := rel_windowMinimum hR h
  rw [hg] at hmin
  generalize hg' : windowMinimum ((hs.drop j).take w) = m at hmin
  obtain ⟨hgg⟩ := hmin
  exact ⟨g, mem_winnow_of_windowMinimum hgs hw hi hg, _, mem_winnow_of_windowMinimum hhs hw hj hg',
    hgg, hgs.position_of_mem_window (mem_of_windowMinimum hg)⟩

end Numbered

end Lookalike
