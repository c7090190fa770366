import Lookalike.Proofs.Region.Overlap

/-!
# Passes over regions

A pass only ever replaces overlapping regions by their union, so all ways to merge a list of
regions end with the same clusters. It keeps the number of regions exactly if no two of them
overlap, which is when `mergeAll` stops.

## Main statements

* `mergePass_fuses`, `mergeAll_fuses` — clusters come about by uniting overlapping regions.
* `forall_mem_mergeAll` — what is true of all clusters.
* `length_mergePass_eq_iff` — when a pass does not make the list shorter.
* `apart_mergeAll` — in the end no two clusters overlap.
* `mergeAll_perm` — the clusters do not depend on the order of the regions.
-/

namespace Lookalike

open Relation Region

variable {r : Region} {cs rs rs' : List Region}

def Apart (rs : List Region) : Prop := rs.Pairwise fun a b => ¬ a.Overlaps b

/-! ## One region -/

@[simp, grind =] theorem absorb_normalized (r : Region) (cs : List Region) :
    absorb r.normalized cs = absorb r cs := by
  induction cs with
  | nil => simp [absorb]
  | cons c cs ih => simp [absorb, ih]

/-- A region that meets no cluster becomes a cluster of its own. -/
theorem absorb_eq_append (h : ∀ c ∈ cs, ¬ c.Overlaps r) : absorb r cs = cs ++ [r.normalized] := by
  induction cs with
  | nil => rfl
  | cons c cs ih =>
    rw [List.forall_mem_cons] at h
    rw [absorb, if_neg h.1, ih h.2, List.cons_append]

@[simp, grind =] theorem length_absorb (r : Region) (cs : List Region) :
    (absorb r cs).length = if ∃ c ∈ cs, c.Overlaps r then cs.length else cs.length + 1 := by
  induction cs with
  | nil => simp [absorb]
  | cons c cs ih =>
    rw [absorb]
    by_cases hc : c.Overlaps r
    · simp [hc]
    · simp only [hc, if_false, List.length_cons, ih, List.exists_mem_cons_iff, false_or]
      split <;> rfl

/-- Absorbing a region fuses it with the first cluster that it overlaps, if there is one. -/
theorem absorb_fuses (r : Region) (cs : List Region) :
    ReflTransGen (Fuse Overlaps join) ↑(r.normalized :: cs) ↑(absorb r cs) := by
  induction cs with
  | nil => exact .refl
  | cons c cs ih =>
    rw [absorb]
    split
    · next h =>
      rw [← join_normalized, join_comm]
      simp only [← Multiset.cons_coe]
      exact .single (.pair _ (overlaps_comm.1 (overlaps_normalized.2 h)))
    · rw [← Multiset.cons_coe, ← Multiset.cons_coe, Multiset.cons_swap]
      exact ih.lift (c ::ₘ ·) fun _ _ h => h.cons c

theorem normalized_of_mem_absorb (hr : ∀ c ∈ cs, c.normalized = c) :
    ∀ c ∈ absorb r cs, c.normalized = c := by
  induction cs with
  | nil => simp [absorb]
  | cons c cs ih =>
    rw [List.forall_mem_cons] at hr
    rw [absorb]
    split
    · exact List.forall_mem_cons.2 ⟨normalized_join c r, hr.2⟩
    · exact List.forall_mem_cons.2 ⟨hr.1, ih hr.2⟩

/-! ## One pass -/

def absorbAll (cs rs : List Region) : List Region := rs.foldl (fun cs r => absorb r cs) cs

@[simp, grind =] theorem absorbAll_nil (cs : List Region) : absorbAll cs [] = cs := rfl

@[simp, grind =] theorem absorbAll_cons (cs : List Region) (r : Region) (rs : List Region) :
    absorbAll cs (r :: rs) = absorbAll (absorb r cs) rs := rfl

theorem mergePass_eq (rs : List Region) : mergePass rs = absorbAll [] rs := rfl

@[simp] theorem absorbAll_map_normalized (cs rs : List Region) :
    absorbAll cs (rs.map normalized) = absorbAll cs rs := by
  induction rs generalizing cs with
  | nil => rfl
  | cons r rs ih => simp [ih]

theorem absorbAll_fuses (cs rs : List Region) :
    ReflTransGen (Fuse Overlaps join) ↑(cs ++ rs.map normalized) ↑(absorbAll cs rs) := by
  induction rs generalizing cs with
  | nil => simpa using .refl
  | cons r rs ih =>
    refine .trans ?_ (ih (absorb r cs))
    have hp : (cs ++ (r :: rs).map normalized).Perm (r.normalized :: cs ++ rs.map normalized) :=
      List.perm_middle
    rw [Multiset.coe_eq_coe.2 hp, ← Multiset.coe_add, ← Multiset.coe_add]
    exact (absorb_fuses r cs).lift _ fun _ _ h => h.add _

/-- If every region starts a cluster of its own, none overlaps one before it. -/
theorem apart_of_length_absorbAll (h : (absorbAll cs rs).length = cs.length + rs.length)
    (hcs : Apart cs) : Apart (cs ++ rs) := by
  induction rs generalizing cs with
  | nil => simpa using hcs
  | cons r rs ih =>
    have hle : (absorbAll (absorb r cs) rs).length ≤ _ := length_foldl_absorb_le _ rs
    rw [absorbAll_cons, List.length_cons] at h
    have hr : ∀ c ∈ cs, ¬ c.Overlaps r := by
      rw [length_absorb] at hle
      split at hle
      · omega
      · next hn => exact fun c hc ho => hn ⟨c, hc, ho⟩
    rw [absorb_eq_append hr] at h
    have ha : Apart (cs ++ [r.normalized]) :=
      List.pairwise_append.2 ⟨hcs, List.pairwise_singleton _ _, by simpa using hr⟩
    simpa [Apart, List.pairwise_append] using ih (by rw [h]; simp; omega) ha

theorem normalized_of_mem_absorbAll (hr : ∀ c ∈ cs, c.normalized = c) :
    ∀ c ∈ absorbAll cs rs, c.normalized = c := by
  induction rs generalizing cs with
  | nil => exact hr
  | cons r rs ih => exact ih (normalized_of_mem_absorb hr)

theorem mergePass_fuses (rs : List Region) :
    ReflTransGen (Fuse Overlaps join) ↑(rs.map normalized) ↑(mergePass rs) :=
  absorbAll_fuses [] rs

@[simp] theorem mergePass_map_normalized (rs : List Region) :
    mergePass (rs.map normalized) = mergePass rs := absorbAll_map_normalized [] rs

@[grind →] theorem normalized_of_mem_mergePass : ∀ c ∈ mergePass rs, c.normalized = c :=
  normalized_of_mem_absorbAll (by simp)

/-- A pass over regions that are apart only normalizes their spans. -/
theorem mergePass_of_apart (h : Apart rs) : mergePass rs = rs.map normalized := by
  suffices ∀ cs, Apart (cs ++ rs) → absorbAll cs rs = cs ++ rs.map normalized from this [] h
  clear h
  induction rs with
  | nil => simp
  | cons r rs ih =>
    intro cs h
    have hr : ∀ c ∈ cs, ¬ c.Overlaps r := fun c hc =>
      (List.pairwise_append.1 h).2.2 c hc r List.mem_cons_self
    rw [absorbAll_cons, absorb_eq_append hr, ih]
    · simp
    · simpa [Apart, List.pairwise_append] using h

/-- A pass keeps the number of regions exactly if no two of them overlap. -/
theorem length_mergePass_eq_iff : (mergePass rs).length = rs.length ↔ Apart rs := by
  constructor
  · intro h
    exact @apart_of_length_absorbAll [] rs (by simpa [mergePass_eq] using h) .nil
  · intro h
    rw [mergePass_of_apart h, List.length_map]

/-! ## All passes -/

theorem mergeAll_of_lt (h : (mergePass rs).length < rs.length) :
    mergeAll rs = mergeAll (mergePass rs) := by
  rw [mergeAll, if_pos h]

theorem mergeAll_of_not_lt (h : ¬ (mergePass rs).length < rs.length) :
    mergeAll rs = mergePass rs := by
  rw [mergeAll, if_neg h]

@[simp] theorem map_normalized_mergePass (rs : List Region) :
    (mergePass rs).map normalized = mergePass rs := by
  conv_rhs => rw [← List.map_id (mergePass rs)]
  exact List.map_congr_left fun c hc => normalized_of_mem_mergePass c hc

/-- The clusters come from the regions by fusing overlapping ones. -/
theorem mergeAll_fuses (rs : List Region) :
    ReflTransGen (Fuse Overlaps join) ↑(rs.map normalized) ↑(mergeAll rs) := by
  fun_induction mergeAll rs with
  | case1 rs next h ih =>
    rw [show next.map normalized = next from map_normalized_mergePass rs] at ih
    exact (mergePass_fuses rs).trans ih
  | case2 rs next h => exact mergePass_fuses rs

/-- What merging the spans of regions and uniting regions keep is true of all clusters. -/
theorem forall_mem_mergeAll {P : Region → Prop} (hnorm : ∀ r, P r → P r.normalized)
    (hjoin : ∀ a b, P a → P b → P (a.join b)) (hrs : ∀ r ∈ rs, P r) : ∀ c ∈ mergeAll rs, P c := by
  apply Fuse.forall_mem (fun {a b} ha hb => hjoin a b ha hb) (mergeAll_fuses rs)
  intro c hc
  obtain ⟨r, hr, rfl⟩ := List.mem_map.1 hc
  exact hnorm r (hrs r hr)

/-- The last pass changes nothing but the spans of single regions. -/
theorem exists_apart_mergeAll (rs : List Region) :
    ∃ cs, Apart cs ∧ mergeAll rs = cs.map normalized := by
  fun_induction mergeAll rs with
  | case1 rs next h ih => exact ih
  | case2 rs next h =>
    have ha : Apart rs :=
      length_mergePass_eq_iff.1 (le_antisymm (length_mergePass_le rs) (not_lt.1 h))
    exact ⟨rs, ha, mergePass_of_apart ha⟩

@[simp] theorem apart_map_normalized : Apart (rs.map normalized) ↔ Apart rs := by
  simp [Apart, List.pairwise_map]

/-- No two of the clusters overlap in either file. -/
@[simp] theorem apart_mergeAll (rs : List Region) : Apart (mergeAll rs) := by
  obtain ⟨cs, ha, h⟩ := exists_apart_mergeAll rs
  rw [h]
  exact apart_map_normalized.2 ha

@[simp] theorem map_normalized_mergeAll (rs : List Region) :
    (mergeAll rs).map normalized = mergeAll rs := by
  obtain ⟨cs, -, h⟩ := exists_apart_mergeAll rs
  simp [h]

@[grind →]
theorem normalized_of_mem_mergeAll {c : Region} (hc : c ∈ mergeAll rs) : c.normalized = c := by
  rw [← map_normalized_mergeAll] at hc
  obtain ⟨r, -, rfl⟩ := List.mem_map.1 hc
  exact normalized_normalized r

/-- A further pass changes nothing after merging. -/
@[simp, grind =]
theorem mergePass_mergeAll (rs : List Region) : mergePass (mergeAll rs) = mergeAll rs := by
  rw [mergePass_of_apart (apart_mergeAll rs), map_normalized_mergeAll]

/-- The clusters do not depend on the order of the regions, except for their own order. -/
theorem mergeAll_perm (h : rs.Perm rs') : (mergeAll rs).Perm (mergeAll rs') := by
  refine Fuse.unique fusible (mergeAll_fuses rs) ?_ (apart_mergeAll rs) (apart_mergeAll rs')
  rw [Multiset.coe_eq_coe.2 (h.map normalized)]
  exact mergeAll_fuses rs'

@[simp] theorem mergeAll_map_normalized (rs : List Region) :
    mergeAll (rs.map normalized) = mergeAll rs := by
  rw [mergeAll, mergePass_map_normalized, List.length_map]
  conv_rhs => rw [mergeAll]

/-! ## Nothing is lost -/

@[simp] theorem absorb_ne_nil (r : Region) (cs : List Region) : absorb r cs ≠ [] := by
  cases cs with
  | nil => simp [absorb]
  | cons c cs =>
    rw [absorb]
    split <;> simp

theorem absorbAll_ne_nil (h : cs ≠ []) (rs : List Region) : absorbAll cs rs ≠ [] := by
  induction rs generalizing cs with
  | nil => exact h
  | cons r rs ih => exact ih (absorb_ne_nil r cs)

theorem mergePass_ne_nil (h : rs ≠ []) : mergePass rs ≠ [] := by
  cases rs with
  | nil => contradiction
  | cons r rs => exact absorbAll_ne_nil (absorb_ne_nil r []) rs

@[grind ←] theorem mergeAll_ne_nil (h : rs ≠ []) : mergeAll rs ≠ [] := by
  fun_induction mergeAll rs with
  | case1 rs next _ ih => exact ih (mergePass_ne_nil h)
  | case2 rs next _ => exact mergePass_ne_nil h

end Lookalike
