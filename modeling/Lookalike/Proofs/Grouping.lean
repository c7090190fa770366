import Mathlib.Data.Fintype.Basic
import Mathlib.Data.List.Perm.Basic
import Mathlib.Logic.Relation
import Mathlib.Order.Basic

/-!
# Grouping places

Places are put together in groups. A pass takes groups one by one and adds each to the first group
that it meets, or behind all others. Its groups are as connected as those that it has been given,
and they come in the order of their earliest places.

## Main definitions

* `Meets` — a link leads from one group to another.
* `gather` — a group is added to others.
* `Joined` — links lead from each place of a group to each other one.
* `Among` — links within a group.
* `Precedes` — a group has a place before all of another.

## Main statements

* `gatherAll_perm`, `joined_gatherAll`, `joined_among_gatherAll`, `pairwise_gatherAll` — what a pass
  keeps.
* `mem_iff_reachable` — groups without links between them hold all that chains of links lead to.
-/

namespace Lookalike

open Relation

variable {ι : Type} {link : ι → ι → Prop} {f g h k : List ι} {gs hs : List (List ι)}

/-- A link leads from one group to the other. -/
def Meets (link : ι → ι → Prop) (g h : List ι) : Prop := ∃ i ∈ g, ∃ j ∈ h, link i j

open Classical in
/-- Adds a group to the first one that it meets, or behind all as a new one. -/
noncomputable def gather (link : ι → ι → Prop) (h : List ι) : List (List ι) → List (List ι)
  | [] => [h]
  | g :: gs => if Meets link g h then (g ++ h) :: gs else g :: gather link h gs

noncomputable def gatherAll (link : ι → ι → Prop) (gs hs : List (List ι)) : List (List ι) :=
  hs.foldl (fun gs h => gather link h gs) gs

/-- The group has a place, and links lead from each of its places to each other. -/
def Joined (link : ι → ι → Prop) (g : List ι) : Prop :=
  g ≠ [] ∧ ∀ i ∈ g, ∀ j ∈ g, ReflTransGen link i j

/-- A link between two places of a group. -/
def Among (link : ι → ι → Prop) (g : List ι) (i j : ι) : Prop := i ∈ g ∧ j ∈ g ∧ link i j

/-- A place of the first group comes before all of the second. -/
def Precedes [LT ι] (g h : List ι) : Prop := ∃ i ∈ g, ∀ j ∈ h, i < j

@[simp, grind =] theorem gatherAll_nil : gatherAll link gs [] = gs := rfl

@[simp, grind =] theorem gatherAll_cons :
    gatherAll link gs (h :: hs) = gatherAll link (gather link h gs) hs := rfl

/-- A property of all groups and of `h` that survives appending `h` to a group it meets holds of all
groups after `h` is gathered. -/
theorem forall_mem_gather {P : List ι → Prop} (hgs : ∀ g ∈ gs, P g) (hh : P h)
    (happ : ∀ g, P g → Meets link g h → P (g ++ h)) : ∀ g ∈ gather link h gs, P g := by
  induction gs with
  | nil => simpa [gather] using hh
  | cons g gs ih =>
    rw [List.forall_mem_cons] at hgs
    rw [gather]
    split
    · next hm => exact List.forall_mem_cons.2 ⟨happ g hgs.1 hm, hgs.2⟩
    · exact List.forall_mem_cons.2 ⟨hgs.1, ih hgs.2⟩

theorem forall_mem_gatherAll {P : List ι → Prop} (hgs : ∀ g ∈ gs, P g) (hhs : ∀ h ∈ hs, P h)
    (happ : ∀ g h, P g → P h → Meets link g h → P (g ++ h)) : ∀ g ∈ gatherAll link gs hs, P g := by
  induction hs generalizing gs with
  | nil => exact hgs
  | cons h hs ih =>
    rw [List.forall_mem_cons] at hhs
    exact ih (forall_mem_gather hgs hhs.1 fun g hg hm => happ g h hg hhs.1 hm) hhs.2

/-! ## Places -/

/-- Gathering moves members between groups and neither adds nor loses one. -/
theorem gather_perm (h : List ι) (gs : List (List ι)) :
    (gather link h gs).flatten.Perm (gs.flatten ++ h) := by
  induction gs with
  | nil => simp [gather]
  | cons g gs ih =>
    rw [gather]
    split
    · simpa [List.append_assoc] using List.perm_append_comm.append_left g
    · simpa [List.append_assoc] using ih.append_left g

theorem gatherAll_perm (gs hs : List (List ι)) :
    (gatherAll link gs hs).flatten.Perm (gs.flatten ++ hs.flatten) := by
  induction hs generalizing gs with
  | nil => simp
  | cons h hs ih =>
    rw [List.flatten_cons, ← List.append_assoc]
    exact (ih (gather link h gs)).trans ((gather_perm h gs).append_right _)

/-! ## Links -/

@[grind ←] theorem Joined.among_of_subset (hg : Joined (Among link g) g) (hgk : g ⊆ k) :
    Joined (Among link k) g :=
  ⟨hg.1, fun i hi j hj =>
    ReflTransGen.mono (fun _ _ h => ⟨hgk h.1, hgk h.2.1, h.2.2⟩) _ _ (hg.2 i hi j hj)⟩

section Links

variable [Std.Symm link]

/-- Two joined groups with a link between them are joined together. -/
theorem Joined.append (hg : Joined link g) (hh : Joined link h) (hm : Meets link g h) :
    Joined link (g ++ h) := by
  obtain ⟨a, ha, b, hb, hab⟩ := hm
  have hgh : ∀ i ∈ g, ∀ j ∈ h, ReflTransGen link i j := fun i hi j hj =>
    ((hg.2 i hi a ha).tail hab).trans (hh.2 b hb j hj)
  refine ⟨by simp [hg.1], fun i hi j hj => ?_⟩
  rcases List.mem_append.1 hi with hi | hi <;> rcases List.mem_append.1 hj with hj | hj
  · exact hg.2 i hi j hj
  · exact hgh i hi j hj
  · exact ReflTransGen.stdSymm.symm _ _ (hgh j hj i hi)
  · exact hh.2 i hi j hj

theorem joined_gatherAll (hgs : ∀ g ∈ gs, Joined link g) (hhs : ∀ h ∈ hs, Joined link h) :
    ∀ g ∈ gatherAll link gs hs, Joined link g :=
  forall_mem_gatherAll hgs hhs fun _ _ hg hh hm => hg.append hh hm

instance (g : List ι) : Std.Symm (Among link g) where
  symm _ _ h := ⟨h.2.1, h.1, symm_of link h.2.2⟩

/-- Groups that are joined by links within them stay so when a link leads from one to the other. -/
theorem Joined.append_among (hg : Joined (Among link g) g) (hh : Joined (Among link h) h)
    (hm : Meets link g h) : Joined (Among link (g ++ h)) (g ++ h) := by
  obtain ⟨i, hi, j, hj, hij⟩ := hm
  have hgh : Meets (Among link (g ++ h)) g h :=
    ⟨i, hi, j, hj, List.mem_append_left h hi, List.mem_append_right g hj, hij⟩
  exact (hg.among_of_subset (List.subset_append_left g h)).append
    (hh.among_of_subset (List.subset_append_right g h)) hgh

theorem joined_among_gatherAll (hgs : ∀ g ∈ gs, Joined (Among link g) g)
    (hhs : ∀ h ∈ hs, Joined (Among link h) h) :
    ∀ g ∈ gatherAll link gs hs, Joined (Among link g) g :=
  forall_mem_gatherAll hgs hhs fun _ _ hg hh hm => hg.append_among hh hm

end Links

/-- Links from a place to itself lead nowhere else. -/
theorem reflTransGen_ne_and : ReflTransGen (fun i j => i ≠ j ∧ link i j) = ReflTransGen link := by
  funext i j
  refine propext ⟨fun h => ReflTransGen.mono (fun _ _ h => h.2) _ _ h, fun h => ?_⟩
  induction h with
  | refl => exact .refl
  | @tail j k _ hjk ih =>
    by_cases he : j = k
    · exact he ▸ ih
    · exact ih.tail ⟨he, hjk⟩

/-- If no link leads from a group to another one, a group holds all that chains of links lead to. -/
theorem mem_iff_reachable {i j : ι} (hall : ∀ i, ∃ g ∈ gs, i ∈ g) (hgs : ∀ g ∈ gs, Joined link g)
    (hm : ∀ g ∈ gs, ∀ h ∈ gs, Meets link g h → g = h) (hg : g ∈ gs) (hi : i ∈ g) :
    j ∈ g ↔ ReflTransGen link i j := by
  refine ⟨(hgs g hg).2 i hi j, fun h => ?_⟩
  induction h with
  | refl => exact hi
  | @tail j k _ hjk ih =>
    obtain ⟨h, hh, hk⟩ := hall k
    exact hm g hg h hh ⟨j, ih, k, hk, hjk⟩ ▸ hk

/-- If groups hold all places and each holds what its places are related to, the least places of
the groups are those before all that they are related to. -/
theorem filterMap_min?_perm {n : Nat} {r : Fin n → Fin n → Prop}
    [DecidablePred fun i => ∀ j, r i j → i ≤ j] {gs : List (List (Fin n))}
    (hp : gs.flatten.Perm (List.finRange n))
    (hr : ∀ g ∈ gs, ∀ i ∈ g, ∀ j, j ∈ g ↔ r i j) :
    (gs.filterMap List.min?).Perm ((List.finRange n).filter fun i => ∀ j, r i j → i ≤ j) := by
  have hnd := List.nodup_flatten.1 (hp.nodup_iff.2 (List.nodup_finRange n))
  have hnodup : (gs.filterMap List.min?).Nodup := by
    refine hnd.2.filterMap _ fun g h hgh i hi j hj hij => ?_
    exact hgh (List.min?_mem hi) (hij ▸ List.min?_mem hj)
  refine (List.perm_ext_iff_of_nodup hnodup ((List.nodup_finRange n).filter _)).2 fun i => ?_
  simp only [List.mem_filterMap, List.min?_eq_some_iff, List.mem_filter, List.mem_finRange,
    true_and, decide_eq_true_eq]
  constructor
  · rintro ⟨g, hg, hi, hle⟩ j hj
    exact hle j ((hr g hg i hi j).2 hj)
  · intro h
    obtain ⟨g, hg, hi⟩ := List.mem_flatten.1 (hp.mem_iff.2 (List.mem_finRange i))
    exact ⟨g, hg, hi, fun j hj => h j ((hr g hg i hi j).1 hj)⟩

/-! ## Order -/

section Order

variable [LinearOrder ι]

@[grind ←] theorem Precedes.append_left (hgk : Precedes g k) (h : List ι) : Precedes (g ++ h) k :=
  let ⟨i, hi, hlt⟩ := hgk
  ⟨i, List.mem_append_left h hi, hlt⟩

@[grind ←] theorem Precedes.append_right (hfg : Precedes f g) (hfh : Precedes f h) :
    Precedes f (g ++ h) := by
  obtain ⟨i, hi, hig⟩ := hfg
  obtain ⟨j, hj, hjh⟩ := hfh
  -- The earlier of the two places comes before both groups.
  rcases le_total i j with hij | hji
  · exact ⟨i, hi, List.forall_mem_append.2 ⟨hig, fun k hk => hij.trans_lt (hjh k hk)⟩⟩
  · exact ⟨j, hj, List.forall_mem_append.2 ⟨fun k hk => hji.trans_lt (hig k hk), hjh⟩⟩

/-- Groups that stand by their least members keep that order when a group behind them all is
gathered. -/
theorem pairwise_gather (hgs : gs.Pairwise Precedes) (hh : ∀ g ∈ gs, Precedes g h) :
    (gather link h gs).Pairwise Precedes := by
  induction gs with
  | nil => exact List.pairwise_singleton _ _
  | cons g gs ih =>
    rw [List.pairwise_cons] at hgs
    rw [List.forall_mem_cons] at hh
    rw [gather]
    split
    · exact List.pairwise_cons.2 ⟨fun k hk => (hgs.1 k hk).append_left h, hgs.2⟩
    · exact List.pairwise_cons.2 ⟨forall_mem_gather hgs.1 hh.1 fun k hk _ => hk.append_right hh.1,
        ih hgs.2 hh.2⟩

theorem pairwise_gatherAll (h : (gs ++ hs).Pairwise Precedes) :
    (gatherAll link gs hs).Pairwise Precedes := by
  induction hs generalizing gs with
  | nil => simpa using h
  | cons k hs ih =>
    obtain ⟨hgs, hhs, hgh⟩ := List.pairwise_append.1 h
    rw [List.pairwise_cons] at hhs
    have hk : ∀ g ∈ gs, Precedes g k := fun g hg => hgh g hg k List.mem_cons_self
    refine ih (List.pairwise_append.2 ⟨pairwise_gather hgs hk, hhs.2, fun g hg f hf => ?_⟩)
    have hgs' : ∀ g ∈ gs, Precedes g f := fun g hg => hgh g hg f (List.mem_cons_of_mem k hf)
    exact forall_mem_gather hgs' (hhs.1 f hf) (fun g hg _ => hg.append_left k) g hg

end Order

end Lookalike
