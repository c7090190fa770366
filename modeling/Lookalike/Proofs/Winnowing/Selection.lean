import Lookalike.Proofs.Winnowing

/-!
# Which k-grams are kept

Whether winnowing keeps a k-gram can be told without windows. Before it, k-grams of the same hash do
no harm, since the rightmost of them is kept; behind it they do. The k-gram is kept exactly if those
that do no harm, counted without a gap on both sides, leave room for a window around it.

## Main definitions

* `reachBefore`, `reachAfter` — how far a window can reach to either side of a k-gram.
* `KGram.Beats` — which of two k-grams a window keeps.

## Main statements

* `windowMinimum_eq_some_iff` — a window keeps the k-gram that beats all others.
* `mem_winnow_iff` — which k-grams are kept.
* `winnow_selects` — the fingerprints of a list of k-grams, and the distances between them.
-/

namespace Lookalike

/-! ## Reach -/

section Reach

variable {α : Type} {gs : List KGram} {i n hash : Nat}

/-- How many k-grams directly before a place, without a gap, have a hash that is not smaller. -/
def reachBefore (gs : List KGram) (i hash : Nat) : Nat :=
  ((gs.take i).reverse.takeWhile fun g => hash ≤ g.hash).length

/-- How many k-grams directly behind a place, without a gap, have a larger hash. -/
def reachAfter (gs : List KGram) (i hash : Nat) : Nat :=
  ((gs.drop (i + 1)).takeWhile fun g => hash < g.hash).length

theorem le_length_takeWhile_iff {p : α → Bool} {xs : List α} :
    n ≤ (xs.takeWhile p).length ↔ ∀ m < n, ∃ x, xs[m]? = some x ∧ p x := by
  induction xs generalizing n with
  | nil =>
    cases n with
    | zero => simp
    | succ n => simpa using ⟨0, Nat.zero_le n⟩
  | cons x xs ih =>
    cases n with
    | zero => simp
    | succ n =>
      rw [Nat.forall_lt_succ_left, List.takeWhile_cons]
      by_cases hx : p x
      · simp [hx, ih]
      · simp [hx]

@[simp] theorem reachBefore_le (gs : List KGram) (i hash : Nat) : reachBefore gs i hash ≤ i := by
  have hprefix := @List.takeWhile_prefix _ (gs.take i).reverse fun g => hash ≤ g.hash
  have hle := hprefix.length_le
  rw [List.length_reverse] at hle
  exact hle.trans (List.length_take_le _ _)

theorem add_reachAfter_lt (hi : i < gs.length) : i + reachAfter gs i hash < gs.length := by
  have hprefix := @List.takeWhile_prefix _ (gs.drop (i + 1)) fun g => hash < g.hash
  have hle := hprefix.length_le
  rw [List.length_drop] at hle
  rw [reachAfter]
  omega

/-- The reach to the left counts the places in a row whose hash is at least the given one. -/
theorem le_reachBefore_iff (hi : i ≤ gs.length) (hn : n ≤ i) :
    n ≤ reachBefore gs i hash ↔
      ∀ j g, i ≤ j + n → j < i → gs[j]? = some g → hash ≤ g.hash := by
  have hget (m : Nat) (hm : m < i) : (gs.take i).reverse[m]? = gs[i - 1 - m]? := by
    have hlen : (gs.take i).length = i := List.length_take_of_le hi
    rw [List.getElem?_reverse (by omega), hlen, List.getElem?_take_of_lt (by omega)]
  rw [reachBefore, le_length_takeWhile_iff]
  constructor
  · intro h j g hj hji hg
    obtain ⟨x, hx, hle⟩ := h (i - 1 - j) (by omega)
    rw [hget _ (by omega), show i - 1 - (i - 1 - j) = j by omega, hg, Option.some.injEq] at hx
    subst hx
    simpa using hle
  · intro h m hm
    have hlt : i - 1 - m < gs.length := by omega
    refine ⟨gs[i - 1 - m], by rw [hget m (by omega), List.getElem?_eq_getElem hlt], ?_⟩
    simpa using h _ _ (by omega) (by omega) (List.getElem?_eq_getElem hlt)

/-- The reach to the right counts the places in a row whose hash is larger than the given one. -/
theorem le_reachAfter_iff (hn : i + n < gs.length) :
    n ≤ reachAfter gs i hash ↔ ∀ j g, i < j → j ≤ i + n → gs[j]? = some g → hash < g.hash := by
  rw [reachAfter, le_length_takeWhile_iff]
  constructor
  · intro h j g hij hj hg
    obtain ⟨x, hx, hlt⟩ := h (j - (i + 1)) (by omega)
    rw [List.getElem?_drop, Nat.add_sub_cancel' (by omega), hg, Option.some.injEq] at hx
    subst hx
    simpa using hlt
  · intro h m hm
    have hlt : i + 1 + m < gs.length := by omega
    refine ⟨gs[i + 1 + m], by rw [List.getElem?_drop, List.getElem?_eq_getElem hlt], ?_⟩
    simpa using h _ _ (by omega) (by omega) (List.getElem?_eq_getElem hlt)

end Reach

/-! ## Windows -/

section Windows

variable {gs : List KGram} {a b c g : KGram} {i p w : Nat}

/-- Of two k-grams in a window, `g` is kept rather than `h`, or they are at the same place. -/
def KGram.Beats (g h : KGram) : Prop :=
  g.hash < h.hash ∨ g.hash = h.hash ∧ h.position ≤ g.position

@[simp] theorem KGram.Beats.refl (g : KGram) : g.Beats g := .inr ⟨rfl, le_rfl⟩

theorem KGram.Beats.trans (hab : a.Beats b) (hbc : b.Beats c) : a.Beats c := by
  unfold Beats at *
  omega

@[simp] theorem KGram.better_beats (a b : KGram) : (a.better b).Beats a ∧ (a.better b).Beats b := by
  unfold better Beats
  split <;> omega

/-- The minimum of a window beats all its members. -/
theorem windowMinimum_beats (h : windowMinimum gs = some g) : ∀ x ∈ gs, g.Beats x := by
  cases gs with
  | nil => simp [windowMinimum] at h
  | cons a gs =>
    rw [windowMinimum, Option.some.injEq] at h
    subst h
    induction gs generalizing a with
    | nil => simp
    | cons b gs ih =>
      obtain ⟨ha, hb⟩ := KGram.better_beats a b
      obtain ⟨hbest, hrest⟩ := List.forall_mem_cons.1 (ih (a := a.better b))
      exact List.forall_mem_cons.2 ⟨hbest.trans ha, List.forall_mem_cons.2 ⟨hbest.trans hb, hrest⟩⟩

/-- A window keeps the k-gram that beats all others. -/
theorem windowMinimum_eq_some_iff
    (hinj : ∀ a ∈ gs, ∀ b ∈ gs, a.position = b.position → a = b) :
    windowMinimum gs = some g ↔ g ∈ gs ∧ ∀ x ∈ gs, g.Beats x := by
  constructor
  · intro h
    exact ⟨mem_of_windowMinimum h, windowMinimum_beats h⟩
  · rintro ⟨hg, hbeats⟩
    obtain ⟨m, hm⟩ := exists_windowMinimum (List.ne_nil_of_mem hg)
    have hmem := mem_of_windowMinimum hm
    have hgm := hbeats m hmem
    have hmg := windowMinimum_beats hm g hg
    have hposition : m.position = g.position := by
      unfold KGram.Beats at hgm hmg
      omega
    rw [hm, hinj m hmem g hg hposition]

/-- A window keeps a k-gram exactly if it reaches no further than the k-gram does. -/
theorem Numbered.windowMinimum_eq_some_iff (h : Numbered gs) (hg : gs[p]? = some g)
    (hi : i + w ≤ gs.length) (hip : i ≤ p) (hpi : p < i + w) :
    windowMinimum ((gs.drop i).take w) = some g ↔
      p - i ≤ reachBefore gs p g.hash ∧ i + w - (p + 1) ≤ reachAfter gs p g.hash := by
  have hwindow (x : KGram) (hx : x ∈ (gs.drop i).take w) : x ∈ gs :=
    List.mem_of_mem_drop (List.mem_of_mem_take hx)
  have hmem : g ∈ (gs.drop i).take w := mem_window_iff.2 ⟨p, hip, hpi, hg⟩
  rw [Lookalike.windowMinimum_eq_some_iff
      fun a ha b hb => h.eq_of_position_eq (hwindow a ha) (hwindow b hb),
    le_reachBefore_iff (by omega) (by omega), le_reachAfter_iff (by omega)]
  have hp := h.position hg
  constructor
  · rintro ⟨-, hbeats⟩
    constructor
    · intro j x hj hjp hx
      have hx' := hbeats x (mem_window_iff.2 ⟨j, by omega, by omega, hx⟩)
      unfold KGram.Beats at hx'
      omega
    · intro j x hpj hj hx
      have hx' := hbeats x (mem_window_iff.2 ⟨j, by omega, by omega, hx⟩)
      have hj := h.position hx
      unfold KGram.Beats at hx'
      omega
  · rintro ⟨hbefore, hafter⟩
    refine ⟨hmem, fun x hx => ?_⟩
    obtain ⟨j, hij, hj, hx⟩ := mem_window_iff.1 hx
    have hposition := h.position hx
    rcases Nat.lt_trichotomy j p with hlt | rfl | hgt
    · -- An equal hash further left does no harm.
      have hle := hbefore j x (by omega) hlt hx
      unfold KGram.Beats
      omega
    · rw [hg, Option.some.injEq] at hx
      exact hx ▸ KGram.Beats.refl g
    · exact .inl (hafter j x hgt (by omega) hx)

/-- Where windows fit, a k-gram is kept exactly if a window fits around it. -/
theorem mem_winnow_iff (h : Numbered gs) (hw : 0 < w) (hle : w ≤ gs.length)
    (hg : gs[p]? = some g) :
    g ∈ (winnow gs w).toList ↔ w ≤ reachBefore gs p g.hash + reachAfter gs p g.hash + 1 := by
  have hp : p < gs.length := (List.getElem?_eq_some_iff.1 hg).1
  have hbefore := reachBefore_le gs p g.hash
  have hafter := @add_reachAfter_lt gs p g.hash hp
  constructor
  · intro hmem
    obtain ⟨i, hi, hmin⟩ := exists_window_of_mem_winnow hw hle hmem
    have hwindow := h.position_of_mem_window (mem_of_windowMinimum hmin)
    rw [h.position hg] at hwindow
    have hreach := (h.windowMinimum_eq_some_iff hg hi hwindow.1 hwindow.2).1 hmin
    omega
  · intro hreach
    -- The window starts as early as the reach allows, but late enough to hold the k-gram.
    have hi : max (p - reachBefore gs p g.hash) (p + 1 - w) + w ≤ gs.length := by omega
    refine mem_winnow_of_windowMinimum h hw hi
      ((h.windowMinimum_eq_some_iff hg hi (by omega) (by omega)).2 ?_)
    omega

end Windows

/-! ## Few k-grams -/

section Few

variable {gs : List KGram} {g : KGram} {w : Nat}

theorem Numbered.pairwise_position (h : Numbered gs) :
    gs.Pairwise fun a b => a.position < b.position :=
  List.pairwise_map.1 (h ▸ List.pairwise_lt_range)

/-- The minimum of a short list is the first of the least hashes. -/
theorem firstMinimum_first (h : gs.Pairwise fun a b => a.position < b.position)
    (hmin : firstMinimum gs = some g) :
    ∀ x ∈ gs, g.hash < x.hash ∨ g.hash = x.hash ∧ g.position ≤ x.position := by
  cases gs with
  | nil => simp [firstMinimum] at hmin
  | cons a gs =>
    rw [firstMinimum, Option.some.injEq] at hmin
    subst hmin
    induction gs generalizing a with
    | nil => simp
    | cons b gs ih =>
      obtain ⟨ha, hb⟩ := List.pairwise_cons.1 h
      have hab : a.position < b.position := ha b List.mem_cons_self
      rw [List.foldl_cons]
      split
      · next hlt =>
        have hbest := ih (a := b) hb
        have hfirst := hbest b List.mem_cons_self
        exact List.forall_mem_cons.2 ⟨.inl (by omega), hbest⟩
      · next hge =>
        have hrest := List.pairwise_cons.2
          ⟨fun x hx => ha x (List.mem_cons_of_mem b hx), (List.pairwise_cons.1 hb).2⟩
        obtain ⟨hfirst, hbest⟩ := List.forall_mem_cons.1 (ih (a := a) hrest)
        exact List.forall_mem_cons.2 ⟨hfirst, List.forall_mem_cons.2 ⟨by omega, hbest⟩⟩

/-- With fewer k-grams than a window holds, the first one of smallest hash is kept. -/
theorem exists_winnow_eq_singleton (h : Numbered gs) (hne : gs ≠ []) (hlt : gs.length < w) :
    ∃ g ∈ gs, (winnow gs w).toList = [g] ∧
      ∀ x ∈ gs, g.hash < x.hash ∨ g.hash = x.hash ∧ g.position ≤ x.position := by
  obtain ⟨g, hg⟩ := exists_firstMinimum hne
  refine ⟨g, mem_of_firstMinimum hg, ?_, firstMinimum_first h.pairwise_position hg⟩
  rw [winnow, if_neg (by omega), if_pos hlt, hg]
  rfl

end Few

/-! ## Distances -/

section Distances

variable {gs : List KGram} {w : Nat}

/-- Numbers in ascending order are related to the next one, if any two with none between are. -/
theorem isChain_of_pairwise_lt {R : Nat → Nat → Prop} {ps : List Nat} (h : ps.Pairwise (· < ·))
    (hR : ∀ p ∈ ps, ∀ q ∈ ps, p < q → (∀ r ∈ ps, r ≤ p ∨ q ≤ r) → R p q) : ps.IsChain R := by
  induction ps with
  | nil => exact .nil
  | cons p ps ih =>
    obtain ⟨hp, hps⟩ := List.pairwise_cons.1 h
    have hrest := ih hps fun a ha b hb hab hnone =>
      hR a (List.mem_cons_of_mem p ha) b (List.mem_cons_of_mem p hb) hab
        (List.forall_mem_cons.2 ⟨.inl (hp a ha).le, hnone⟩)
    cases ps with
    | nil => exact .singleton p
    | cons q ps =>
      refine List.isChain_cons_cons.2 ⟨?_, hrest⟩
      have hpq := hp q List.mem_cons_self
      refine hR p List.mem_cons_self q (by simp) hpq
        (List.forall_mem_cons.2 ⟨.inl le_rfl, List.forall_mem_cons.2 ⟨.inr le_rfl, ?_⟩⟩)
      exact fun r hr => .inr ((List.pairwise_cons.1 hps).1 r hr).le

/-- Of any two fingerprints with none between, the later one is at most a window further on. -/
theorem isChain_winnow (h : Numbered gs) (hw : 0 < w) :
    ((winnow gs w).toList.map KGram.position).IsChain fun p q => p < q ∧ q ≤ p + w := by
  refine isChain_of_pairwise_lt (Fingerprints.pairwise_positions _)
    fun p _ q hq hpq hnone => ⟨hpq, ?_⟩
  by_contra hfar
  obtain ⟨g, hg, rfl⟩ := List.mem_map.1 hq
  have hlt := h.position_lt (mem_of_mem_winnow hg)
  -- The window right behind `p` ends before the later one and keeps something.
  obtain ⟨x, hx, hpx, hxp⟩ := exists_mem_winnow_window h hw (i := p + 1) (by omega)
  have hor := hnone x.position (List.mem_map_of_mem hx)
  omega

/-- The first window keeps a k-gram, so the first one kept is among the first `w`. -/
theorem exists_head?_winnow (h : Numbered gs) (hw : 0 < w) (hle : w ≤ gs.length) :
    ∃ p ∈ ((winnow gs w).toList.map KGram.position).head?, p < w := by
  obtain ⟨g, hg, -, hlt⟩ := exists_mem_winnow_window h hw (i := 0) (by omega)
  have hsorted := (winnow gs w).pairwise_positions.imp le_of_lt
  have hmem : g.position ∈ (winnow gs w).toList.map KGram.position := List.mem_map_of_mem hg
  have hfirst := hsorted.rel_head hmem
  exact ⟨_, List.head?_eq_some_head _, by omega⟩

theorem exists_getLast?_winnow (h : Numbered gs) (hw : 0 < w) (hle : w ≤ gs.length) :
    ∃ p ∈ ((winnow gs w).toList.map KGram.position).getLast?, gs.length ≤ p + w := by
  obtain ⟨g, hg, hge, -⟩ := exists_mem_winnow_window h hw (i := gs.length - w) (by omega)
  have hsorted := (winnow gs w).pairwise_positions.imp le_of_lt
  have hmem : g.position ∈ (winnow gs w).toList.map KGram.position := List.mem_map_of_mem hg
  have hlast := hsorted.rel_getLast hmem
  exact ⟨_, List.getLast?_eq_some_getLast _, by omega⟩

end Distances

/-- What winnowing keeps of a list of k-grams. Every fingerprint is kept as it is, under its place.
Where windows fit, a k-gram is kept exactly if those directly before it whose hash is not smaller,
those directly behind it whose hash is larger, and itself fill a window. So every window keeps one,
neighbours are at most a window apart, and so are the first and the last from the ends. With fewer
k-grams only the first one of smallest hash is kept. -/
theorem winnow_selects {gs : List KGram} {w : Nat} (h : Numbered gs) (hw : 1 ≤ w) :
    let kept := (winnow gs w).toList
    let keys := kept.map KGram.position
    (∀ g ∈ kept, gs[g.position]? = some g) ∧
      (w ≤ gs.length →
        (∀ i g, gs[i]? = some g →
          (i ∈ keys ↔ reachBefore gs i g.hash + reachAfter gs i g.hash + 1 ≥ w)) ∧
        (∀ i, i + w ≤ gs.length → ∃ p ∈ keys, i ≤ p ∧ p < i + w) ∧
        keys.IsChain (fun p q => p < q ∧ q ≤ p + w) ∧
        (∃ p ∈ keys.head?, p < w) ∧ ∃ p ∈ keys.getLast?, p ≥ gs.length - w) ∧
      (0 < gs.length → gs.length < w → ∃ g ∈ gs, kept = [g] ∧
        ∀ x ∈ gs, g.hash ≤ x.hash ∧ (x.position < g.position → g.hash < x.hash)) := by
  intro kept keys
  have hkept (g : KGram) (hg : g ∈ kept) : gs[g.position]? = some g :=
    h.getElem?_position (mem_of_mem_winnow hg)
  refine ⟨hkept, fun hle => ⟨fun i g hi => ?_, fun i hi => ?_, isChain_winnow h hw,
    exists_head?_winnow h hw hle, ?_⟩, fun hpos hlt => ?_⟩
  · rw [ge_iff_le, ← mem_winnow_iff h hw hle hi]
    constructor
    · intro hmem
      obtain ⟨f, hf, rfl⟩ := List.mem_map.1 hmem
      rwa [← Option.some.inj ((hkept f hf).symm.trans hi)]
    · intro hmem
      exact List.mem_map.2 ⟨g, hmem, h.position hi⟩
  · obtain ⟨g, hg, hig, hgi⟩ := exists_mem_winnow_window h hw hi
    exact ⟨g.position, List.mem_map_of_mem hg, hig, hgi⟩
  · obtain ⟨p, hp, hlast⟩ := exists_getLast?_winnow h hw hle
    exact ⟨p, hp, by omega⟩
  · obtain ⟨g, hg, hsingle, hfirst⟩ :=
      exists_winnow_eq_singleton h (List.ne_nil_of_length_pos hpos) hlt
    refine ⟨g, hg, hsingle, fun x hx => ?_⟩
    have hor := hfirst x hx
    omega

/-- Six k-grams in windows of three, and the first three of them with windows of five. -/
theorem winnow_selects_plateau :
    let gs : List KGram := [5, 3, 3, 7, 1, 4].zipIdx.map fun (hash, i) =>
      ⟨hash, i, ⟨⟨1, i⟩, ⟨1, i + 1⟩⟩⟩
    Numbered gs ∧ reachBefore gs 1 3 + reachAfter gs 1 3 = 1 ∧
      1 ∉ (winnow gs 3).toList.map KGram.position ∧
      2 ∈ (winnow gs 3).toList.map KGram.position ∧
      Numbered (gs.take 3) ∧ ∃ g ∈ gs, (winnow (gs.take 3) 5).toList = [g] ∧ g.position = 1 := by
  intro gs
  have hgs : Numbered gs := rfl
  have hthree : Numbered (gs.take 3) := rfl
  obtain ⟨-, hselect, -⟩ := winnow_selects (w := 3) hgs (by decide)
  obtain ⟨hplace, -⟩ := hselect (by decide)
  obtain ⟨-, -, hfew⟩ := winnow_selects (w := 5) hthree (by decide)
  obtain ⟨g, hg, hsingle, -⟩ := hfew (by decide) (by decide)
  have heval : (winnow (gs.take 3) 5).toList.map KGram.position = [1] := by decide +kernel
  rw [hsingle] at heval
  exact ⟨hgs, by decide, fun hmem => absurd ((hplace 1 _ rfl).1 hmem) (by decide),
    (hplace 2 _ rfl).2 (by decide), hthree, g, List.mem_of_mem_take hg, hsingle,
    (List.cons.inj heval).1⟩

end Lookalike
