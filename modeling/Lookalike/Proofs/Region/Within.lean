import Lookalike.Proofs.Region.Incremental
import Lookalike.Proofs.Span.Within

/-!
# Regions within clusters

Merging only makes regions larger: all spans of a region lie within spans of one cluster. More
regions make more of them overlap, so clusters of some regions lie within clusters of all.

## Main definitions

* `Region.Within` — a region lies within another, on both sides.

## Main statements

* `exists_mem_mergeAll_within` — every region lies within a cluster.
* `exists_mem_mergeAll_within_of_sublist` — clusters of some regions lie within clusters of all.
-/

namespace Lookalike

namespace Region

/-- Every span lies within a span of the other region, on either side. -/
structure Within (a b : Region) : Prop where
  source : ∀ s ∈ a.source, ∃ t ∈ b.source, s.Within t
  target : ∀ s ∈ a.target, ∃ t ∈ b.target, s.Within t

variable {a b c : Region}

instance : Std.Refl Within where
  refl _ := ⟨fun s hs => ⟨s, hs, refl_of _ s⟩, fun s hs => ⟨s, hs, refl_of _ s⟩⟩

@[grind →] theorem Within.trans (hab : a.Within b) (hbc : b.Within c) : a.Within c := by
  constructor
  · intro s hs
    obtain ⟨t, ht, hst⟩ := hab.source s hs
    obtain ⟨u, hu, htu⟩ := hbc.source t ht
    exact ⟨u, hu, trans_of _ hst htu⟩
  · intro s hs
    obtain ⟨t, ht, hst⟩ := hab.target s hs
    obtain ⟨u, hu, htu⟩ := hbc.target t ht
    exact ⟨u, hu, trans_of _ hst htu⟩

instance : IsTrans Region Within where
  trans _ _ _ := Within.trans

@[simp] theorem within_normalized (a : Region) : a.Within a.normalized :=
  ⟨fun _ hs => exists_mem_mergeSpans_within hs, fun _ hs => exists_mem_mergeSpans_within hs⟩

@[simp] theorem within_join_left (a b : Region) : a.Within (a.join b) where
  source _ hs := exists_mem_mergeSpans_within (List.mem_append_left _ hs)
  target _ hs := exists_mem_mergeSpans_within (List.mem_append_left _ hs)

@[simp] theorem within_join_right (a b : Region) : b.Within (a.join b) :=
  join_comm b a ▸ within_join_left b a

end Region

/-- Every region lies within a cluster. -/
theorem exists_mem_mergeAll_within {r : Region} {rs : List Region} (hr : r ∈ rs) :
    ∃ c ∈ mergeAll rs, r.Within c := by
  have hnorm : r.normalized ∈ rs.map Region.normalized := List.mem_map_of_mem hr
  obtain ⟨c, hc, hrc⟩ := Fuse.exists_mem_of_mem Region.within_join_left Region.within_join_right
    (mergeAll_fuses rs) hnorm
  exact ⟨c, hc, r.within_normalized.trans hrc⟩

/-- Regions that are added to others never take a cluster apart. -/
theorem exists_mem_mergeAll_within_of_sublist {c : Region} {rs rs' : List Region}
    (h : rs.Sublist rs') (hc : c ∈ mergeAll rs) : ∃ d ∈ mergeAll rs', c.Within d := by
  obtain ⟨added, hp⟩ := h.exists_perm_append
  -- Merging can start with the clusters of the fewer regions.
  have hstart : mergeAll (mergeAll rs ++ added) = mergeAll (rs ++ added) :=
    mergeAll_mergeAll_append rs added
  obtain ⟨d, hd, hcd⟩ := exists_mem_mergeAll_within (List.mem_append_left added hc)
  rw [hstart] at hd
  exact ⟨d, (mergeAll_perm hp).mem_iff.2 hd, hcd⟩

end Lookalike
