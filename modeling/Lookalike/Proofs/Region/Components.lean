import Lookalike.Proofs.Grouping
import Lookalike.Proofs.Region.Pass
import Mathlib.Data.List.FinRange
import Mathlib.Data.List.Pairwise
import Mathlib.Data.List.Sort

/-!
# Connected components of regions

Two entries of a list of regions are linked if they overlap, and connected if a chain of links
leads from one to the other. Merging all regions gives the union of every connected component, in
the order of the first entries.

While regions are merged, every cluster is the union of a group of entries. Groups are followed by
the same passes as regions, so what is true of the groups in the end is true of the clusters.

## Main definitions

* `Linked`, `Connected` — overlap of two entries, and chains of it.
* `components` — the union of every connected component.
* `Groups` — the entries in connected groups, in the order of their first entries.

## Main statements

* `Groups.exists_mergeAll` — clusters stay unions of groups.
* `mergeAll_connected_components` — merging gives the connected components.
-/

namespace Lookalike

open Relation Region

variable {rs : List Region} {g h : List (Fin rs.length)} {gs hs : List (List (Fin rs.length))}

/-- The regions at two different places overlap. -/
def Linked (rs : List Region) (i j : Fin rs.length) : Prop := i ≠ j ∧ rs[i].Overlaps rs[j]

/-- A chain of overlapping regions leads from one place to the other. -/
def Connected (rs : List Region) : Fin rs.length → Fin rs.length → Prop :=
  ReflTransGen (Linked rs)

def uniteAt (rs : List Region) (g : List (Fin rs.length)) : Region := unite (g.map rs.get)

open Classical in
noncomputable def component (rs : List Region) (i : Fin rs.length) : List (Fin rs.length) :=
  (List.finRange rs.length).filter fun j => Connected rs i j

open Classical in
noncomputable def firsts (rs : List Region) : List (Fin rs.length) :=
  (List.finRange rs.length).filter fun i => ∀ j, Connected rs i j → i ≤ j

/-- The union of every connected component, in the order of their first places. -/
noncomputable def components (rs : List Region) : List Region :=
  (firsts rs).map fun i => uniteAt rs (component rs i)

def OverlapAt (rs : List Region) (i j : Fin rs.length) : Prop := rs[i].Overlaps rs[j]

instance : Std.Symm (OverlapAt rs) where
  symm _ _ := overlaps_comm.1

theorem connected_eq : Connected rs = ReflTransGen (OverlapAt rs) := reflTransGen_ne_and

@[simp, grind =]
theorem mem_component {i j : Fin rs.length} : j ∈ component rs i ↔ Connected rs i j := by
  simp [component]

/-! ## Groups and clusters -/

@[simp, grind =] theorem uniteAt_overlaps_uniteAt :
    (uniteAt rs g).Overlaps (uniteAt rs h) ↔ Meets (OverlapAt rs) g h := by
  simp [uniteAt, unite_overlaps_unite, Meets, OverlapAt]

@[simp, grind =]
theorem uniteAt_append : uniteAt rs (g ++ h) = (uniteAt rs g).join (uniteAt rs h) := by
  simp [uniteAt]

theorem uniteAt_perm (hp : g.Perm h) : uniteAt rs g = uniteAt rs h := unite_perm (hp.map rs.get)

/-- Absorbing the union of a group into unions of groups is gathering the group into them. -/
theorem map_gather (h : List (Fin rs.length)) (gs : List (List (Fin rs.length))) :
    (gather (OverlapAt rs) h gs).map (uniteAt rs) =
      absorb (uniteAt rs h) (gs.map (uniteAt rs)) := by
  induction gs with
  | nil => simp [gather, absorb, uniteAt]
  | cons g gs ih =>
    rw [gather, List.map_cons, absorb]
    by_cases hm : Meets (OverlapAt rs) g h
    · rw [if_pos hm, if_pos (uniteAt_overlaps_uniteAt.2 hm), List.map_cons, uniteAt_append]
    · rw [if_neg hm, if_neg (mt uniteAt_overlaps_uniteAt.1 hm), List.map_cons, ih]

theorem map_gatherAll (gs hs : List (List (Fin rs.length))) :
    (gatherAll (OverlapAt rs) gs hs).map (uniteAt rs) =
      absorbAll (gs.map (uniteAt rs)) (hs.map (uniteAt rs)) := by
  induction hs generalizing gs with
  | nil => rfl
  | cons h hs ih => rw [gatherAll_cons, ih, map_gather, List.map_cons, absorbAll_cons]

/-- A pass over unions of groups is one round of gathering. -/
theorem map_gatherAll_nil (gs : List (List (Fin rs.length))) :
    (gatherAll (OverlapAt rs) [] gs).map (uniteAt rs) = mergePass (gs.map (uniteAt rs)) :=
  map_gatherAll [] gs

theorem map_singletons (rs : List Region) :
    ((List.finRange rs.length).map ([·])).map (uniteAt rs) = rs.map normalized := by
  conv_rhs => rw [← List.map_get_finRange rs, List.map_map]
  rw [List.map_map]
  exact List.map_congr_left fun i _ => unite_singleton _

/-- All entries in connected groups, in the order of their first places. -/
structure Groups (rs : List Region) (gs : List (List (Fin rs.length))) : Prop where
  perm : gs.flatten.Perm (List.finRange rs.length)
  joined : ∀ g ∈ gs, Joined (OverlapAt rs) g
  ordered : gs.Pairwise Precedes

namespace Groups

theorem singletons (rs : List Region) : Groups rs ((List.finRange rs.length).map ([·])) where
  perm := by rw [← List.flatMap_def, List.flatMap_singleton']
  joined := by simpa [Joined] using fun _ => .refl
  ordered := by simpa [List.pairwise_map, Precedes] using List.pairwise_lt_finRange rs.length

/-- Groups in front that are put together leave the others as they are. -/
theorem gatherAll_append (hgs : Groups rs (gs ++ hs)) :
    Groups rs (Lookalike.gatherAll (OverlapAt rs) [] gs ++ hs) where
  perm := by
    have hp := hgs.perm
    rw [List.flatten_append] at hp ⊢
    exact ((gatherAll_perm [] gs).append_right _).trans hp
  joined := by
    have hj := List.forall_mem_append.1 hgs.joined
    exact List.forall_mem_append.2 ⟨joined_gatherAll (by simp) hj.1, hj.2⟩
  ordered := by
    obtain ⟨hg, hh, hgh⟩ := List.pairwise_append.1 hgs.ordered
    refine List.pairwise_append.2 ⟨pairwise_gatherAll hg, hh, ?_⟩
    exact forall_mem_gatherAll (by simp) hgh fun g g' h _ _ k hk => (h k hk).append_left g'

theorem gatherAll (hgs : Groups rs gs) : Groups rs (gatherAll (OverlapAt rs) [] gs) := by
  simpa using @gatherAll_append rs gs [] (by simpa using hgs)

/-- Clusters that are unions of groups stay such when they are merged. -/
theorem exists_mergeAll (hgs : Groups rs gs) :
    ∃ hs, Groups rs hs ∧ mergeAll (gs.map (uniteAt rs)) = hs.map (uniteAt rs) := by
  generalize hcs : gs.map (uniteAt rs) = cs
  fun_induction mergeAll cs generalizing gs with
  | case1 cs next h =>
    rename_i ih
    subst hcs
    exact ih hgs.gatherAll (map_gatherAll_nil gs)
  | case2 cs next =>
    subst hcs
    exact ⟨_, hgs.gatherAll, (map_gatherAll_nil gs).symm⟩

theorem exists_mem (hgs : Groups rs gs) (i : Fin rs.length) : ∃ g ∈ gs, i ∈ g :=
  List.mem_flatten.1 (hgs.perm.mem_iff.2 (List.mem_finRange i))

/-- If no two clusters overlap, a group holds all that is connected with a place of it. -/
theorem mem_iff_connected (hgs : Groups rs gs) (ha : Apart (gs.map (uniteAt rs))) (hg : g ∈ gs)
    {i j : Fin rs.length} (hi : i ∈ g) : j ∈ g ↔ Connected rs i j := by
  rw [connected_eq]
  have : Std.Symm fun g h => ¬ (uniteAt rs g).Overlaps (uniteAt rs h) :=
    ⟨fun _ _ hgh => mt overlaps_comm.1 hgh⟩
  refine mem_iff_reachable hgs.exists_mem hgs.joined (fun g hg h hh hm => ?_) hg hi
  by_contra hne
  exact (List.pairwise_map.1 ha).forall hg hh hne (uniteAt_overlaps_uniteAt.2 hm)

/-- The first places of the components are the least members of the groups. -/
theorem firsts_eq (hgs : Groups rs gs) (ha : Apart (gs.map (uniteAt rs))) :
    firsts rs = gs.filterMap List.min? := by
  classical
  have hp : (gs.filterMap List.min?).Perm (firsts rs) :=
    filterMap_min?_perm hgs.perm fun g hg i hi j => hgs.mem_iff_connected ha hg hi
  have hanti : ∀ i j : Fin rs.length, i < j → j < i → i = j := fun _ _ h h' => (h.asymm h').elim
  refine (hp.eq_of_pairwise (fun i j _ _ => hanti i j) ?_ ?_).symm
  · refine hgs.ordered.filterMap _ fun g h hgh i hi j hj => ?_
    obtain ⟨a, hag, hah⟩ := hgh
    rw [List.min?_eq_some_iff] at hi hj
    exact (hi.2 a hag).trans_lt (hah j hj.1)
  · exact (List.pairwise_lt_finRange _).filter _

/-- A group of the final grouping has the members of the component of any of them. -/
theorem perm_component (hgs : Groups rs gs) (ha : Apart (gs.map (uniteAt rs))) (hg : g ∈ gs)
    {i : Fin rs.length} (hi : i ∈ g) : (component rs i).Perm g := by
  have hnd : gs.flatten.Nodup := hgs.perm.nodup_iff.2 (List.nodup_finRange _)
  refine (List.perm_ext_iff_of_nodup ((List.nodup_finRange _).filter _)
    ((List.nodup_flatten.1 hnd).1 g hg)).2 fun j => ?_
  rw [← component, mem_component, hgs.mem_iff_connected ha hg hi]

theorem components_eq (hgs : Groups rs gs) (ha : Apart (gs.map (uniteAt rs))) :
    components rs = gs.map (uniteAt rs) := by
  rw [components, hgs.firsts_eq ha, List.map_filterMap, ← List.filterMap_eq_map]
  refine List.filterMap_congr fun g hg => ?_
  obtain ⟨i, hi⟩ := Option.isSome_iff_exists.1 (List.isSome_min?_of_ne_nil (hgs.joined g hg).1)
  rw [hi, Option.map_some, Function.comp_apply,
    uniteAt_perm (hgs.perm_component ha hg (List.min?_mem hi))]

/-- Groups are merged to the components, however far they have been put together before. -/
theorem mergeAll_eq (hgs : Groups rs gs) : mergeAll (gs.map (uniteAt rs)) = components rs := by
  obtain ⟨hs, hhs, h⟩ := hgs.exists_mergeAll
  rw [h, hhs.components_eq (h ▸ apart_mergeAll _)]

end Groups

/-- Merging gives the unions of the components, in the order of their first members. -/
theorem mergeAll_eq_components (rs : List Region) : mergeAll rs = components rs := by
  rw [← (Groups.singletons rs).mergeAll_eq, map_singletons, mergeAll_map_normalized]

theorem Groups.single (hrs : rs ≠ []) (h : ∀ i j, Connected rs i j) :
    Groups rs [List.finRange rs.length] where
  perm := by simp
  joined := by simpa [Joined, ← connected_eq] using ⟨hrs, h⟩
  ordered := List.pairwise_singleton _ _

/-- Regions that are all connected are merged to one. -/
theorem mergeAll_of_connected (hrs : rs ≠ []) (h : ∀ i j, Connected rs i j) :
    mergeAll rs = [unite rs] := by
  rw [mergeAll_eq_components, (Groups.single hrs h).components_eq (List.pairwise_singleton _ _),
    List.map_singleton, uniteAt, List.map_get_finRange]

/-- If regions touch places so that those of one place overlap, and each two neighbouring places
are touched by one region, all regions that touch a place are connected. -/
theorem connected_of_touches {touches : Region → Nat → Prop} {n : Nat}
    (hex : ∀ r ∈ rs, ∃ q < n, touches r q)
    (hover : ∀ {a b q}, touches a q → touches b q → a.Overlaps b)
    (hnext : ∀ q, q + 1 < n → ∃ r ∈ rs, touches r q ∧ touches r (q + 1)) (i j : Fin rs.length) :
    Connected rs i j := by
  rw [connected_eq]
  have hle {p q : Nat} (hpq : p ≤ q) (hq : q < n) {i j : Fin rs.length} (hi : touches rs[i] p)
      (hj : touches rs[j] q) : ReflTransGen (OverlapAt rs) i j := by
    induction q, hpq using Nat.le_induction generalizing j with
    | base => exact .single (hover hi hj)
    | succ q hpq ih =>
      obtain ⟨r, hr, hrq, hrq'⟩ := hnext q hq
      obtain ⟨k, rfl⟩ := List.mem_iff_get.1 hr
      exact (ih (by omega) hi hrq).tail (hover hrq' hj)
  obtain ⟨p, hp, hip⟩ := hex rs[i] (List.getElem_mem _)
  obtain ⟨q, hq, hjq⟩ := hex rs[j] (List.getElem_mem _)
  rcases le_total p q with hpq | hqp
  · exact hle hpq hq hip hjq
  · exact ReflTransGen.stdSymm.symm _ _ (hle hqp hp hjq hip)

/-- Merging regions gives the union of every connected component, in the order of their first
entries. Permuted regions give permuted clusters, no two clusters overlap, and one more pass
changes nothing. -/
theorem mergeAll_connected_components (rs : List Region) :
    mergeAll rs = components rs ∧
      (∀ rs', rs.Perm rs' → (mergeAll rs).Perm (mergeAll rs')) ∧
      (mergeAll rs).Pairwise (fun a b => ¬ a.Overlaps b) ∧
      mergePass (mergeAll rs) = mergeAll rs :=
  ⟨mergeAll_eq_components rs, fun _ => mergeAll_perm, apart_mergeAll rs, mergePass_mergeAll rs⟩

end Lookalike
