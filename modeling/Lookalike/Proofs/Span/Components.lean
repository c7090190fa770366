import Lookalike.Proofs.Grouping
import Lookalike.Proofs.Span.Within
import Mathlib.Data.Finset.Lattice.Fold
import Mathlib.Data.List.FinRange
import Mathlib.Data.Multiset.Bind

/-!
# Connected components of spans

Two entries of a list of spans are linked if they overlap, and connected if a chain of links leads
from one to the other. Merging the spans gives one span for every connected component, from its
smallest start to its largest stop.

Every merged span is kept together with the places of the spans that it has been made of. Spans are
replaced by their covers only where they overlap, so these places are connected; in the end no two
merged spans overlap, so nothing else is connected with them.

## Main definitions

* `Span.Linked`, `Span.Connected` — overlap of two entries, and chains of it.
* `Span.hull`, `Span.hulls` — the extent of a component, and that of every component.
* `Span.Contains` — a position lies inside a span.
* `Span.Gathered` — a span with the places that it has been made of.

## Main statements

* `mergeSpans_perm_hulls` — there is one merged span for every component.
* `exists_mem_mergeSpans_contains` — merging keeps which positions lie inside a span.
* `mergeSpans_canonical` — merged spans are a canonical form.
-/

namespace Lookalike

open Relation

namespace Span

variable {ss : List Span}

/-- The spans at two different places overlap. -/
def Linked (ss : List Span) (i j : Fin ss.length) : Prop := i ≠ j ∧ ss[i].Overlaps ss[j]

/-- A chain of overlapping spans leads from one place to the other. -/
def Connected (ss : List Span) : Fin ss.length → Fin ss.length → Prop := ReflTransGen (Linked ss)

open Classical in
noncomputable def component (ss : List Span) (i : Fin ss.length) : Finset (Fin ss.length) :=
  {j | Connected ss i j}

@[simp, grind =]
theorem mem_component {i j : Fin ss.length} : j ∈ component ss i ↔ Connected ss i j := by
  simp [component]

@[simp] theorem component_nonempty (i : Fin ss.length) : (component ss i).Nonempty :=
  ⟨i, mem_component.2 .refl⟩

/-- From the smallest start to the largest stop of the spans connected with that at a place. -/
noncomputable def hull (ss : List Span) (i : Fin ss.length) : Span where
  start := (component ss i).inf' (component_nonempty i) fun j => ss[j].start
  stop := (component ss i).sup' (component_nonempty i) fun j => ss[j].stop

open Classical in
noncomputable def firsts (ss : List Span) : List (Fin ss.length) :=
  (List.finRange ss.length).filter fun i => ∀ j, Connected ss i j → i ≤ j

/-- The hull of every component, in the order of their first places. -/
noncomputable def hulls (ss : List Span) : List Span := (firsts ss).map (hull ss)

/-- The position is not before the start of the span, and before its stop. -/
def Contains (s : Span) (p : Position) : Prop := s.start ≤ p ∧ p < s.stop

/-- Overlapping spans leave no gap, so their cover has the positions of both and no other. -/
theorem cover_contains {a b : Span} (h : a.Overlaps b) (p : Position) :
    (a.cover b).Contains p ↔ a.Contains p ∨ b.Contains p := by
  wlog hab : a ≤ b generalizing a b
  · rw [cover_comm, this (overlaps_comm.1 h) (le_of_not_ge hab), or_comm]
  rw [overlaps_of_le hab] at h
  have hle := start_le_start hab
  simp only [Contains, cover, min_eq_left hle, lt_max_iff]
  -- What comes after the stop of the first span comes after the start of the second.
  grind

/-! ## Spans and the places that they are made of -/

def OverlapAt (ss : List Span) (i j : Fin ss.length) : Prop := ss[i].Overlaps ss[j]

instance : Std.Symm (OverlapAt ss) where
  symm _ _ := overlaps_comm.1

theorem connected_eq : Connected ss = ReflTransGen (OverlapAt ss) := reflTransGen_ne_and

/-- The places of a group are connected, and the span overlaps what a span of the group overlaps and
runs from the smallest start to the largest stop of them. -/
structure Gathered (ss : List Span) (g : List (Fin ss.length)) (s : Span) : Prop where
  joined : Joined (OverlapAt ss) g
  overlaps_iff : ∀ c, s.Overlaps c ↔ ∃ i ∈ g, ss[i].Overlaps c
  within : ∀ i ∈ g, ss[i].Within s
  start_mem : ∃ i ∈ g, ss[i].start = s.start
  stop_mem : ∃ i ∈ g, ss[i].stop = s.stop

namespace Gathered

variable {g h : List (Fin ss.length)} {s t : Span}

theorem single (i : Fin ss.length) : Gathered ss [i] ss[i] where
  joined := by simpa [Joined] using ReflTransGen.refl
  overlaps_iff := by simp
  within := by simpa using refl_of Within _
  start_mem := by simp
  stop_mem := by simp

theorem meets (hg : Gathered ss g s) (hh : Gathered ss h t) (hst : s.Overlaps t) :
    Meets (OverlapAt ss) g h := by
  obtain ⟨i, hi, hit⟩ := (hg.overlaps_iff t).1 hst
  obtain ⟨j, hj, hji⟩ := (hh.overlaps_iff _).1 (overlaps_comm.1 hit)
  exact ⟨i, hi, j, hj, overlaps_comm.1 hji⟩

/-- Gathered spans overlap when two of their members do. -/
theorem overlaps_of_meets (hg : Gathered ss g s) (hh : Gathered ss h t)
    (hm : Meets (OverlapAt ss) g h) : s.Overlaps t := by
  obtain ⟨i, hi, j, hj, hij⟩ := hm
  have hsj : s.Overlaps ss[j] := (hg.overlaps_iff _).2 ⟨i, hi, hij⟩
  exact overlaps_comm.1 ((hh.overlaps_iff s).2 ⟨j, hj, overlaps_comm.1 hsj⟩)

/-- Gathered spans that overlap are gathered into their cover. -/
theorem append (hg : Gathered ss g s) (hh : Gathered ss h t) (hst : s.Overlaps t) :
    Gathered ss (g ++ h) (s.cover t) where
  joined := hg.joined.append hh.joined (hg.meets hh hst)
  overlaps_iff c := by
    rw [cover_overlaps hst, hg.overlaps_iff, hh.overlaps_iff]
    simp only [List.mem_append, or_and_right, exists_or]
  within := by
    rw [List.forall_mem_append]
    exact ⟨fun i hi => trans_of Within (hg.within i hi) (within_cover_left s t),
      fun i hi => trans_of Within (hh.within i hi) (within_cover_right s t)⟩
  start_mem := by
    rcases min_choice s.start t.start with hm | hm
    · obtain ⟨i, hi, he⟩ := hg.start_mem
      exact ⟨i, List.mem_append_left h hi, he.trans hm.symm⟩
    · obtain ⟨i, hi, he⟩ := hh.start_mem
      exact ⟨i, List.mem_append_right g hi, he.trans hm.symm⟩
  stop_mem := by
    rcases max_choice s.stop t.stop with hm | hm
    · obtain ⟨i, hi, he⟩ := hg.stop_mem
      exact ⟨i, List.mem_append_left h hi, he.trans hm.symm⟩
    · obtain ⟨i, hi, he⟩ := hh.stop_mem
      exact ⟨i, List.mem_append_right g hi, he.trans hm.symm⟩

/-- A group that is a whole component has been made into its hull. -/
theorem hull_eq (hg : Gathered ss g s) {i : Fin ss.length}
    (hi : ∀ j, j ∈ g ↔ Connected ss i j) : hull ss i = s := by
  have hmem : ∀ j, j ∈ component ss i ↔ j ∈ g := fun j => mem_component.trans (hi j).symm
  ext1
  · obtain ⟨j, hj, he⟩ := hg.start_mem
    refine le_antisymm ?_ (Finset.le_inf' (component_nonempty i) _ fun k hk =>
      (hg.within k ((hmem k).1 hk)).1)
    exact (Finset.inf'_le (fun k => ss[k].start) ((hmem j).2 hj)).trans_eq he
  · obtain ⟨j, hj, he⟩ := hg.stop_mem
    refine le_antisymm (Finset.sup'_le (component_nonempty i) _ fun k hk =>
      (hg.within k ((hmem k).1 hk)).2) ?_
    exact he.symm.trans_le (Finset.le_sup' (fun k => ss[k].stop) ((hmem j).2 hj))

end Gathered

/-- Merging can be followed on the places of the spans: every place goes into one merged span. -/
theorem exists_gathered (ss : List Span) :
    ∃ ps : List (List (Fin ss.length) × Span), (ps.map Prod.snd).Perm (mergeSpans ss) ∧
      (ps.map Prod.fst).flatten.Perm (List.finRange ss.length) ∧
      ∀ p ∈ ps, Gathered ss p.1 p.2 := by
  let singles : List (List (Fin ss.length) × Span) :=
    (List.finRange ss.length).map fun i => ([i], ss[i])
  let unite (p q : List (Fin ss.length) × Span) := (p.1 ++ q.1, p.2.cover q.2)
  have hsnd : singles.map Prod.snd = ss := by
    rw [List.map_map]
    exact List.map_get_finRange ss
  have hunite : ∀ p q, (unite p q).2 = p.2.cover q.2 := fun _ _ => rfl
  have hfuses := mergeSpans_fuses ss
  rw [← hsnd, ← Multiset.map_coe] at hfuses
  obtain ⟨v, hv, hmap⟩ := Fuse.exists_map_eq (f := Prod.snd) hunite hfuses
  induction v using Quotient.inductionOn with
  | h ps =>
    refine ⟨ps, ?_, ?_, ?_⟩
    · simpa [hsnd] using hmap
    · have hsum := Fuse.sum_map_eq (f := fun p => (p.1 : Multiset (Fin ss.length)))
        (fun p q => (Multiset.coe_add p.1 q.1).symm) hv
      have hsingles := Multiset.sum_map_singleton (Multiset.ofList (List.finRange ss.length))
      rw [← Multiset.coe_eq_coe, ← Multiset.coe_join, ← hsingles]
      simpa [singles, Multiset.join, Function.comp_def] using hsum
    · exact Fuse.forall_mem_of_meets (p := fun p : _ × Span => Gathered ss p.1 p.2)
        (fun hpq hp hq => hp.append hq hpq) hv (by simpa [singles] using Gathered.single)

/-- In the end every group is a whole component. -/
theorem exists_gathered_components (ss : List Span) :
    ∃ ps : List (List (Fin ss.length) × Span), (ps.map Prod.snd).Perm (mergeSpans ss) ∧
      (ps.map Prod.fst).flatten.Perm (List.finRange ss.length) ∧
      ∀ p ∈ ps, Gathered ss p.1 p.2 ∧ ∀ i ∈ p.1, ∀ j, j ∈ p.1 ↔ Connected ss i j := by
  obtain ⟨ps, hsnd, hfst, hps⟩ := exists_gathered ss
  have hsymm : Std.Symm fun p q : List (Fin ss.length) × Span => ¬ p.2.Overlaps q.2 :=
    ⟨fun _ _ h => mt overlaps_comm.1 h⟩
  have hapart : ps.Pairwise fun p q => ¬ p.2.Overlaps q.2 := by
    have h := (pairwise_mergeSpans ss).imp And.right
    exact List.pairwise_map.1 ((hsnd.pairwise_iff fun h => mt overlaps_comm.1 h).2 h)
  refine ⟨ps, hsnd, hfst, fun p hp => ⟨hps p hp, fun i hi j => ?_⟩⟩
  rw [connected_eq]
  refine mem_iff_reachable (fun i => ?_) ?_ ?_ (List.mem_map_of_mem hp) hi
  · exact List.mem_flatten.1 (hfst.mem_iff.2 (List.mem_finRange i))
  · simpa using fun g s hg => (hps (g, s) hg).joined
  · simp only [List.forall_mem_map]
    intro p hp q hq hm
    by_contra hne
    have hpq : p ≠ q := fun he => hne (he ▸ rfl)
    exact hapart.forall hp hq hpq ((hps p hp).overlaps_of_meets (hps q hq) hm)

end Span

section Merge

variable {ss : List Span}

open Lookalike.Span

/-- The merged spans are the hulls of the components. -/
theorem mergeSpans_perm_hulls (ss : List Span) : (mergeSpans ss).Perm (hulls ss) := by
  classical
  obtain ⟨ps, hsnd, hfst, hps⟩ := exists_gathered_components ss
  have hfirsts : ((ps.map Prod.fst).filterMap List.min?).Perm (firsts ss) := by
    refine filterMap_min?_perm hfst fun g hg => ?_
    obtain ⟨p, hp, rfl⟩ := List.mem_map.1 hg
    exact (hps p hp).2
  have hhull : ∀ p ∈ ps, p.1.min?.map (hull ss) = some p.2 := by
    intro p hp
    obtain ⟨hg, hc⟩ := hps p hp
    obtain ⟨i, hi⟩ := Option.isSome_iff_exists.1 (List.isSome_min?_of_ne_nil hg.joined.1)
    rw [hi, Option.map_some, hg.hull_eq (hc i (List.min?_mem hi))]
  have hmap : ((ps.map Prod.fst).filterMap List.min?).map (hull ss) = ps.map Prod.snd := by
    rw [List.filterMap_map, List.map_filterMap, ← List.filterMap_eq_map]
    exact List.filterMap_congr hhull
  exact hsnd.symm.trans (hmap ▸ hfirsts.map _)

/-- Merging covers the same positions. -/
theorem exists_mem_mergeSpans_contains {p : Position} :
    (∃ o ∈ mergeSpans ss, o.Contains p) ↔ ∃ s ∈ ss, s.Contains p := by
  simpa using Fuse.exists_mem_iff (fun h => cover_contains h p) (mergeSpans_fuses ss)

/-- Merged spans are a canonical form. They ascend, no two of them overlap, and there is one for
every connected component, from its smallest start to its largest stop. So they do not depend on the
order of the spans, spans may be merged before others come in, merging again changes nothing, and
the same positions lie inside a span as before. -/
theorem mergeSpans_canonical :
    (∀ ss, (mergeSpans ss).Pairwise (· ≤ ·) ∧ (mergeSpans ss).Perm (hulls ss) ∧
        (mergeSpans ss).Pairwise fun a b => ¬ a.Overlaps b) ∧
      (∀ ss ts, ss.Perm ts → mergeSpans ss = mergeSpans ts) ∧
      (∀ ss ts, mergeSpans (mergeSpans ss ++ ts) = mergeSpans (ss ++ ts)) ∧
      (∀ ss, mergeSpans (mergeSpans ss) = mergeSpans ss) ∧
      ∀ ss p, (∃ o ∈ mergeSpans ss, o.Contains p) ↔ ∃ s ∈ ss, s.Contains p := by
  refine ⟨fun ss => ⟨?_, mergeSpans_perm_hulls ss, ?_⟩, fun _ _ => mergeSpans_perm,
    mergeSpans_append_left, mergeSpans_mergeSpans, fun _ _ => exists_mem_mergeSpans_contains⟩
  · exact (pairwise_mergeSpans ss).imp And.left
  · exact (pairwise_mergeSpans ss).imp And.right

/-- A chain of spans over two lines, an empty span in it and one that runs backwards after it. -/
example : mergeSpans [⟨⟨2, 1⟩, ⟨2, 6⟩⟩, ⟨⟨3, 4⟩, ⟨3, 1⟩⟩, ⟨⟨1, 4⟩, ⟨2, 2⟩⟩, ⟨⟨2, 3⟩, ⟨2, 3⟩⟩,
    ⟨⟨1, 1⟩, ⟨1, 5⟩⟩] = [⟨⟨1, 1⟩, ⟨2, 6⟩⟩, ⟨⟨3, 4⟩, ⟨3, 1⟩⟩] := by
  decide

end Merge

end Lookalike
