import Lookalike.Overlap
import Lookalike.Proofs.Winnowing

/-!
# Overlap of fingerprints

Every hash that both files have makes a bucket, and every bucket leads to a collision, whatever
the pairing. Each with each and by rank alike, a fingerprint of a file collides with itself when
the file is compared with itself.

## Main definitions

* `Collision.SideBySide`, `Bucket.SideBySide` — relations of k-grams on either side.

## Main statements

* `Overlap.mem_shared` — the buckets.
* `Overlap.exists_mem_collisions` — a shared hash has a collision.
* `Overlap.self_mem_collisions` — fingerprints of a file compared with itself.
* `Overlap.forall₂_collisions` — related fingerprints have related collisions.
-/

open scoped Relator

namespace Lookalike

variable {s t s' t' : Fingerprints} {c d : CommentSet} {p : Pairing} {g : KGram} {h : Nat}

namespace Fingerprints

@[simp, grind =] theorem mem_hashes : h ∈ s.hashes ↔ ∃ g ∈ s.toList, g.hash = h :=
  (Ordered.mem_ofList (fun _ _ _ _ h => h) h).trans List.mem_map

@[simp, grind =] theorem mem_withHash : g ∈ s.withHash h ↔ g ∈ s.toList ∧ g.hash = h := by
  simp [withHash]

end Fingerprints

/-! ## Collisions -/

namespace Bucket

variable {b : Bucket}

theorem collisions_ne_nil (p : Pairing) (hs : b.sources ≠ []) (ht : b.targets ≠ []) :
    b.collisions p ≠ [] := by
  obtain ⟨x, xs, hx⟩ := List.exists_cons_of_ne_nil hs
  obtain ⟨y, ys, hy⟩ := List.exists_cons_of_ne_nil ht
  simp only [collisions, hx, hy]
  cases p with
  | firstOnly => simp
  | crossProduct => split_ifs <;> simp

@[grind →] theorem mem_of_mem_collisions {e : Collision} (he : e ∈ b.collisions p) :
    e.source ∈ b.sources ∧ e.target ∈ b.targets := by
  have hrank : ∀ e ∈ b.sources.zipWith Collision.mk b.targets,
      e.source ∈ b.sources ∧ e.target ∈ b.targets := by
    intro e he
    rw [← List.map_uncurry_zip_eq_zipWith] at he
    obtain ⟨⟨x, y⟩, hxy, rfl⟩ := List.mem_map.1 he
    exact List.of_mem_zip hxy
  cases p with
  | firstOnly => exact hrank e (List.mem_of_mem_take he)
  | crossProduct =>
    simp only [collisions] at he
    split_ifs at he
    · simp only [List.mem_flatMap, List.mem_map] at he
      obtain ⟨x, hx, y, hy, rfl⟩ := he
      exact ⟨hx, hy⟩
    · exact hrank e he

/-- Whether each is paired with each or by rank, equal fingerprints are paired. -/
theorem self_mem_collisions (hb : b.sources = b.targets) (hg : g ∈ b.sources) :
    ⟨g, g⟩ ∈ b.collisions .crossProduct := by
  simp only [collisions, ← hb]
  split_ifs
  · exact List.mem_flatMap.2 ⟨g, hg, List.mem_map.2 ⟨g, hg, rfl⟩⟩
  · rw [List.zipWith_self]
    exact List.mem_map.2 ⟨g, hg, rfl⟩

end Bucket

namespace Overlap

@[grind =] theorem mem_shared {b : Bucket} :
    b ∈ (of s t c d).shared ↔ ∃ h, (∃ g ∈ s.toList, g.hash = h) ∧ (∃ g ∈ t.toList, g.hash = h) ∧
      b = ⟨h, s.withHash h, t.withHash h⟩ := by
  simp only [of, List.mem_filterMap, Fingerprints.mem_hashes]
  refine exists_congr fun h => and_congr_right fun _ => ?_
  split
  · next ht =>
    have : ¬ ∃ g ∈ t.toList, g.hash = h := fun ⟨g, hg, hh⟩ =>
      List.ne_nil_of_mem (Fingerprints.mem_withHash.2 ⟨hg, hh⟩) ht
    simp [this]
  · next x xs ht =>
    have hx : ∃ g ∈ t.toList, g.hash = h := ⟨x, Fingerprints.mem_withHash.1 (by simp [ht])⟩
    simp only [Option.some.injEq, ← ht, hx, true_and]
    exact eq_comm

@[grind =] theorem mem_collisions {e : Collision} :
    e ∈ (of s t c d).collisions p ↔ ∃ b ∈ (of s t c d).shared, e ∈ b.collisions p :=
  List.mem_flatMap

/-- The k-grams of a collision are fingerprints of their files with one hash. -/
@[grind →] theorem mem_of_mem_collisions {e : Collision} (he : e ∈ (of s t c d).collisions p) :
    e.source ∈ s.toList ∧ e.target ∈ t.toList ∧ e.source.hash = e.target.hash := by
  obtain ⟨b, hb, he⟩ := mem_collisions.1 he
  obtain ⟨h, -, -, rfl⟩ := mem_shared.1 hb
  obtain ⟨hs, ht⟩ := Bucket.mem_of_mem_collisions he
  rw [Fingerprints.mem_withHash] at hs ht
  exact ⟨hs.1, ht.1, hs.2.trans ht.2.symm⟩

/-- Two fingerprints with the same hash make a bucket. -/
theorem exists_mem_shared {g' : KGram} (hg : g ∈ s.toList) (hg' : g' ∈ t.toList)
    (hh : g.hash = g'.hash) :
    ∃ b ∈ (of s t c d).shared, g ∈ b.sources ∧ g' ∈ b.targets :=
  ⟨_, mem_shared.2 ⟨g.hash, ⟨g, hg, rfl⟩, ⟨g', hg', hh.symm⟩, rfl⟩,
    Fingerprints.mem_withHash.2 ⟨hg, rfl⟩, Fingerprints.mem_withHash.2 ⟨hg', hh.symm⟩⟩

/-- A hash that both sides have makes the count of common hashes positive. -/
theorem commonHashes_pos {g' : KGram} (hg : g ∈ s.toList) (hg' : g' ∈ t.toList)
    (hh : g.hash = g'.hash) : 0 < (of s t c d).commonHashes := by
  obtain ⟨b, hb, -⟩ := @exists_mem_shared _ _ c d _ _ hg hg' hh
  exact List.length_pos_of_mem hb

/-- A shared hash has a collision, whatever the pairing. -/
theorem exists_mem_collisions {g' : KGram} (p : Pairing) (hg : g ∈ s.toList)
    (hg' : g' ∈ t.toList) (hh : g.hash = g'.hash) : ∃ e, e ∈ (of s t c d).collisions p := by
  obtain ⟨b, hb, hs, ht⟩ := @exists_mem_shared _ _ c d _ _ hg hg' hh
  obtain ⟨e, he⟩ := List.exists_mem_of_ne_nil _
    (Bucket.collisions_ne_nil p (List.ne_nil_of_mem hs) (List.ne_nil_of_mem ht))
  exact ⟨e, mem_collisions.2 ⟨b, hb, he⟩⟩

/-- Buckets come in ascending order of their hashes. -/
theorem pairwise_shared : (of s t c d).shared.Pairwise fun a b => a.hash < b.hash := by
  refine (Ordered.ascending_ofList id (s.toList.map (·.hash))).filterMap _ ?_
  intro h h' hlt a ha b hb
  split at ha
  · contradiction
  split at hb
  · contradiction
  rw [← Option.some.inj ha, ← Option.some.inj hb]
  exact hlt

/-- No more hashes are shared than either file has fingerprints. -/
theorem commonHashes_le_smaller : (of s t c d).commonHashes ≤ (of s t c d).smaller := by
  have hnd : ((of s t c d).shared.map (·.hash)).Nodup :=
    List.pairwise_map.2 (pairwise_shared.imp fun h => h.ne)
  have hle {f : Fingerprints} (hf : ∀ b ∈ (of s t c d).shared, ∃ g ∈ f.toList, g.hash = b.hash) :
      (of s t c d).commonHashes ≤ f.size := by
    have hsub : (of s t c d).shared.map (·.hash) ⊆ f.toList.map (·.hash) := by
      intro h hh
      obtain ⟨b, hb, rfl⟩ := List.mem_map.1 hh
      exact List.mem_map.2 (hf b hb)
    simpa [commonHashes, Fingerprints.size] using (hnd.subperm hsub).length_le
  refine le_min (hle fun b hb => ?_) (hle fun b hb => ?_)
  all_goals
    obtain ⟨h, hs, ht, rfl⟩ := mem_shared.1 hb
    assumption

/-- The score is never more than one: no more is shared than the smaller side has. -/
@[simp] theorem numerator_le_denominator : (of s t c d).numerator ≤ (of s t c d).denominator :=
  Nat.add_le_add_right commonHashes_le_smaller _

/-- Every fingerprint of a file that is compared with itself collides with itself. -/
theorem self_mem_collisions (hg : g ∈ s.toList) :
    ⟨g, g⟩ ∈ (of s s c d).collisions .crossProduct := by
  have hb : (⟨g.hash, s.withHash g.hash, s.withHash g.hash⟩ : Bucket) ∈ (of s s c d).shared :=
    mem_shared.2 ⟨g.hash, ⟨g, hg, rfl⟩, ⟨g, hg, rfl⟩, rfl⟩
  exact mem_collisions.2
    ⟨_, hb, Bucket.self_mem_collisions rfl (Fingerprints.mem_withHash.2 ⟨hg, rfl⟩)⟩

end Overlap

/-! ## Related fingerprints -/

section Related

variable {R S : KGram → KGram → Prop}

/-- The k-grams of both files are related. -/
def Collision.SideBySide (R S : KGram → KGram → Prop) (e f : Collision) : Prop :=
  R e.source f.source ∧ S e.target f.target

/-- The fingerprints of both files are related. -/
structure Bucket.SideBySide (R S : KGram → KGram → Prop) (a b : Bucket) : Prop where
  sources : List.Forall₂ R a.sources b.sources
  targets : List.Forall₂ S a.targets b.targets

theorem forall₂_zipWith_mk {as bs cs ds : List KGram} (hac : List.Forall₂ R as cs)
    (hbd : List.Forall₂ S bs ds) :
    List.Forall₂ (Collision.SideBySide R S) (as.zipWith Collision.mk bs)
      (cs.zipWith Collision.mk ds) := by
  induction hac generalizing bs ds with
  | nil => exact .nil
  | cons hac _ ih =>
    cases hbd with
    | nil => exact .nil
    | cons hbd hbs => exact .cons ⟨hac, hbd⟩ (ih hbs)

/-- Buckets with related members, one by one, have related collisions in the same order. -/
theorem Bucket.SideBySide.forall₂_collisions {a b : Bucket} (h : Bucket.SideBySide R S a b)
    (p : Pairing) :
    List.Forall₂ (Collision.SideBySide R S) (a.collisions p) (b.collisions p) := by
  have hrank := forall₂_zipWith_mk h.sources h.targets
  cases p with
  | firstOnly => exact List.forall₂_take 1 hrank
  | crossProduct =>
    simp only [Bucket.collisions, h.sources.length_eq, h.targets.length_eq]
    split_ifs
    · exact List.rel_flatMap h.sources fun _ _ hx => List.rel_map (fun _ _ hy => ⟨hx, hy⟩) h.targets
    · exact hrank

namespace Fingerprints

theorem hashes_eq (hR : KGram.Faithful R) (h : List.Forall₂ R s.toList s'.toList) :
    s.hashes = s'.hashes := by
  have hmap : List.Forall₂ Eq (s.toList.map (·.hash)) (s'.toList.map (·.hash)) :=
    List.rel_map (fun _ _ hx => hR.hash hx) h
  rw [List.forall₂_eq_eq_eq] at hmap
  rw [hashes, hashes, hmap]

theorem forall₂_withHash (hR : KGram.Faithful R) (hs : List.Forall₂ R s.toList s'.toList)
    (h : Nat) : List.Forall₂ R (s.withHash h) (s'.withHash h) :=
  List.rel_filter (fun _ _ hx => by simp [hR.hash hx]) hs

end Fingerprints

namespace Overlap

variable (hR : KGram.Faithful R) (hS : KGram.Faithful S)
  (hs : List.Forall₂ R s.toList s'.toList) (ht : List.Forall₂ S t.toList t'.toList)

include hR hS hs ht

theorem forall₂_shared :
    List.Forall₂ (Bucket.SideBySide R S) (of s t c d).shared (of s' t' c d).shared := by
  rw [of, of, Fingerprints.hashes_eq hR hs]
  have heq : List.Forall₂ Eq s'.hashes s'.hashes := List.forall₂_refl _
  refine List.rel_filterMap ?_ heq
  rintro h _ rfl
  have hsources := Fingerprints.forall₂_withHash hR hs h
  have htargets := Fingerprints.forall₂_withHash hS ht h
  dsimp only
  generalize t.withHash h = ts, t'.withHash h = ts' at htargets
  cases htargets with
  | nil => exact .none
  | cons hx hxs => exact .some ⟨hsources, .cons hx hxs⟩

/-- Related fingerprints have related collisions. -/
theorem forall₂_collisions (p : Pairing) :
    List.Forall₂ (Collision.SideBySide R S) ((of s t c d).collisions p)
      ((of s' t' c d).collisions p) :=
  List.rel_flatMap (forall₂_shared hR hS hs ht) fun _ _ h => h.forall₂_collisions p

/-- Related fingerprints have the same score. -/
theorem score_eq : (of s t c d).score = (of s' t' c d).score := by
  have hshared := (@forall₂_shared s t s' t' c d R S hR hS hs ht).length_eq
  have hsmaller : (of s t c d).smaller = (of s' t' c d).smaller :=
    congrArg₂ min hs.length_eq ht.length_eq
  have hn : (of s t c d).numerator = (of s' t' c d).numerator :=
    congrArg (· + c.countCommon d) hshared
  have hd : (of s t c d).denominator = (of s' t' c d).denominator :=
    congrArg (· + c.countCommon d) hsmaller
  rw [score, score, hn, hd]

end Overlap

end Related

end Lookalike
