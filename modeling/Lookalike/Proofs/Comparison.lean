import Lookalike.Proofs.Alignment
import Lookalike.Proofs.Overlap
import Lookalike.Proofs.Region.Related

/-!
# Comparison of indexed files

Indexed files that are alike but for their layout cannot be told apart by a comparison with any
other file. Files that share the hash of a fingerprint have a region in common.

## Main definitions

* `Index.Alike` — indexed files with the same hashes, and spans that are related.

## Main statements

* `compareIndexed_alike` — the report on indexed files that are alike.
* `regions_ne_nil` — files that share a fingerprint have a region in common.
* `regions_eq_nil_iff` — when a report has no region.
-/

open scoped Relator

namespace Lookalike

/-- Two k-grams with one hash and one position, and related spans. -/
structure KGram.Alike (S : Span → Span → Prop) (a b : KGram) : Prop where
  hash : a.hash = b.hash
  position : a.position = b.position
  span : S a.span b.span

@[simp] theorem KGram.faithful_alike (S : Span → Span → Prop) : KGram.Faithful (KGram.Alike S) where
  hash h := h.hash
  position_lt h h' := by rw [h.position, h'.position]

/-- Two indexed files that are the same but for their spans, which are related. -/
structure Index.Alike (S : Span → Span → Prop) (x y : Index) : Prop where
  kgrams : List.Forall₂ (KGram.Alike S) x.kgrams y.kgrams
  fingerprints : List.Forall₂ (KGram.Alike S) x.fingerprints.toList y.fingerprints.toList
  comments : x.comments = y.comments

@[simp] theorem Index.alike_self (x : Index) : Index.Alike (· = ·) x x where
  kgrams := List.forall₂_same.2 fun _ _ => ⟨rfl, rfl, rfl⟩
  fingerprints := List.forall₂_same.2 fun _ _ => ⟨rfl, rfl, rfl⟩
  comments := rfl

/-- Files whose k-grams are alike and which have the same comments are alike. -/
theorem Index.alike_ofLexed {S : Span → Span → Prop} {options : Options} {x y : Lexed}
    (hk : List.Forall₂ (KGram.Alike S) (Lookalike.kgrams x.tokens options.k)
      (Lookalike.kgrams y.tokens options.k))
    (hc : x.comments = y.comments) :
    Index.Alike S (.ofLexed options x) (.ofLexed options y) where
  kgrams := hk
  fingerprints := forall₂_winnow (KGram.faithful_alike S) hk options.w
  comments := hc

section Alike

variable {S T : Span → Span → Prop} {x x' y y' : Index}

/-- Alignments that agree up to their spans give regions that agree up to their spans, or none on
both sides. -/
theorem rel_toRegion? {a b : Alignment}
    (h : List.Forall₂ (SideBySide (KGram.Alike S) (KGram.Alike T)) a.pairs b.pairs) :
    Option.Rel (Region.SideBySide S T) a.toRegion? b.toRegion? := by
  have hsource : List.Forall₂ S (a.source.map (·.span)) (b.source.map (·.span)) :=
    List.rel_map (fun _ _ h => h.span) (List.rel_map (fun _ _ h => h.1) h)
  have htarget : List.Forall₂ T (a.target.map (·.span)) (b.target.map (·.span)) :=
    List.rel_map (fun _ _ h => h.span) (List.rel_map (fun _ _ h => h.2) h)
  simp only [Alignment.toRegion?, List.isEmpty_iff_length_eq_zero, h.length_eq]
  split_ifs
  · exact .none
  · exact .some ⟨hsource, htarget⟩

theorem Index.Alike.score_eq (hx : Index.Alike S x x') (hy : Index.Alike T y y') :
    (x.overlap y).score = (x'.overlap y').score := by
  rw [Index.overlap, Index.overlap, hx.comments, hy.comments]
  exact Overlap.score_eq (KGram.faithful_alike S) (KGram.faithful_alike T) hx.fingerprints
    hy.fingerprints

/-- Alike indexes collide at the same places, so their aligned regions correspond one by one. -/
theorem Index.Alike.forall₂_alignedRegions (hx : Index.Alike S x x') (hy : Index.Alike T y y')
    (options : Options) :
    List.Forall₂ (Region.SideBySide S T) (alignedRegions x y (x.overlap y) options)
      (alignedRegions x' y' (x'.overlap y') options) := by
  have hS := KGram.faithful_alike S
  have hT := KGram.faithful_alike T
  rw [Index.overlap, Index.overlap, hx.comments, hy.comments]
  refine List.rel_filterMap ?_ (Overlap.forall₂_collisions hS hT hx.fingerprints hy.fingerprints
    options.pairing)
  rintro c d ⟨hc, hd⟩
  refine rel_toRegion? ?_
  rw [alignAround, alignAround, hc.position, hd.position]
  exact forall₂_longestCommon hS hT (forall₂_neighborhood hx.kgrams _ _)
    (forall₂_neighborhood hy.kgrams _ _)

/-- A comparison cannot tell files apart that are alike: the score is the same, and the regions
are related one by one. -/
theorem compareIndexed_alike (hS : Span.Faithful S) (hT : Span.Faithful T)
    (hx : Index.Alike S x x') (hy : Index.Alike T y y') (m n : Option String)
    (options : Options) :
    (compareIndexed x y m n options).score = (compareIndexed x' y' m n options).score ∧
      List.Forall₂ (Region.SideBySide S T) (compareIndexed x y m n options).regions
        (compareIndexed x' y' m n options).regions :=
  ⟨hx.score_eq hy, forall₂_sort_startsBy hS hT
    (forall₂_mergeAll hS hT (hx.forall₂_alignedRegions hy options))⟩

end Alike

/-! ## Shared fingerprints -/

section Shared

variable {x y : Index} {g g' : KGram}

/-- An index whose fingerprints are among its k-grams. -/
structure Index.Sound (x : Index) : Prop where
  numbered : Numbered x.kgrams
  mem_kgrams : ∀ g ∈ x.fingerprints.toList, g ∈ x.kgrams

/-- An index built from a lexed file numbers its k-grams, and its fingerprints are some of them. -/
@[simp] theorem Index.sound_ofLexed (options : Options) (lexed : Lexed) :
    (Index.ofLexed options lexed).Sound where
  numbered := kgrams_numbered _ _
  mem_kgrams _ := mem_of_mem_winnow

/-- Around every collision something is aligned. -/
theorem exists_mem_alignedRegions (hx : x.Sound) (hy : y.Sound) {options : Options} {c : Collision}
    (hc : c ∈ (x.overlap y).collisions options.pairing) :
    ⟨(alignAround c x.kgrams y.kgrams options.w).source.map (·.span),
      (alignAround c x.kgrams y.kgrams options.w).target.map (·.span)⟩ ∈
        alignedRegions x y (x.overlap y) options := by
  obtain ⟨hs, ht, hh⟩ := Overlap.mem_of_mem_collisions hc
  exact List.mem_filterMap.2 ⟨c, hc, Alignment.toRegion?_eq
    (alignAround_ne_nil hx.numbered hy.numbered (hx.mem_kgrams _ hs) (hy.mem_kgrams _ ht) hh)⟩

/-- The spans of aligned regions are spans of k-grams. -/
theorem exists_mem_kgrams_of_mem_alignedRegions {o : Overlap} {options : Options} {r : Region}
    (hr : r ∈ alignedRegions x y o options) :
    (r.source ≠ [] ∧ ∀ s ∈ r.source, ∃ g ∈ x.kgrams, g.span = s) ∧
      r.target ≠ [] ∧ ∀ s ∈ r.target, ∃ g ∈ y.kgrams, g.span = s := by
  obtain ⟨e, -, he⟩ := List.mem_filterMap.1 hr
  have hne : (alignAround e x.kgrams y.kgrams options.w).pairs ≠ [] := by
    intro h
    rw [Alignment.toRegion?, h] at he
    contradiction
  rw [Alignment.toRegion?_eq hne] at he
  rw [← Option.some.inj he]
  simp only [Alignment.source, Alignment.target, List.map_map, ne_eq, List.map_eq_nil_iff]
  refine ⟨⟨hne, List.forall_mem_map.2 fun p hp => ?_⟩, hne, List.forall_mem_map.2 fun p hp => ?_⟩
  · exact ⟨p.1, (mem_of_mem_alignAround hp).1, rfl⟩
  · exact ⟨p.2, (mem_of_mem_alignAround hp).2, rfl⟩

/-- Files that share the hash of a fingerprint have a region in common. -/
theorem regions_ne_nil (hx : x.Sound) (hy : y.Sound) (hg : g ∈ x.fingerprints.toList)
    (hg' : g' ∈ y.fingerprints.toList) (hh : g.hash = g'.hash) (m n : Option String)
    (options : Options) : (compareIndexed x y m n options).regions ≠ [] := by
  obtain ⟨c, hc⟩ := @Overlap.exists_mem_collisions _ _ x.comments y.comments _ _ options.pairing
    hg hg' hh
  have hne := mergeAll_ne_nil (List.ne_nil_of_mem (exists_mem_alignedRegions hx hy hc))
  intro hnil
  rw [compareIndexed, ← List.length_eq_zero_iff, List.length_mergeSort, List.length_eq_zero_iff]
    at hnil
  exact hne hnil

/-- A report has a region exactly if the files share a hash, whatever the pairing and the distance
of alignments. -/
theorem regions_eq_nil_iff (hx : x.Sound) (hy : y.Sound) (m n : Option String)
    (options : Options) :
    (compareIndexed x y m n options).regions = [] ↔ (x.overlap y).commonHashes = 0 := by
  constructor
  · intro hnil
    by_contra hpos
    obtain ⟨b, hb⟩ := List.exists_mem_of_length_pos (Nat.pos_of_ne_zero hpos)
    obtain ⟨h, ⟨g, hg, hgh⟩, ⟨g', hg', hgh'⟩, -⟩ := Overlap.mem_shared.1 hb
    exact regions_ne_nil hx hy hg hg' (hgh.trans hgh'.symm) m n options hnil
  · intro hzero
    have hcollisions : (x.overlap y).collisions options.pairing = [] := by
      rw [Overlap.collisions, List.length_eq_zero_iff.1 hzero, List.flatMap_nil]
    have hregions : alignedRegions x y (x.overlap y) options = [] := by
      rw [alignedRegions, hcollisions, List.filterMap_nil]
    rw [compareIndexed, hregions]
    simp [mergeAll, mergePass]

end Shared

end Lookalike
