import Lookalike.Proofs.Exchange
import Lookalike.Proofs.Overlap.Indexed
import Mathlib.Data.Prod.Lex

/-!
# Enumeration of collisions

The collisions of two sets of fingerprints come in the order of their hashes and positions, each
once. Which fingerprints collide can be told from their hash and from how many of the same hash come
before them. However often a hash is found, there are never more than four times as many collisions
as fingerprints.

## Main definitions

* `Collision.place` — where a collision comes in the order.
* `Fingerprints.rank` — how many fingerprints of the same hash come before one.

## Main statements

* `Overlap.filter_collisions` — the collisions of one hash.
* `Overlap.pairwise_collisions` — the order of collisions.
* `Overlap.length_collisions_le` — how many there are.
* `collisions_enumerated` — all of this for either pairing, of the collisions found by number.
-/

namespace Lookalike

/-! ## Ranks -/

section Ranks

variable {f : Fingerprints} {g : KGram} {h r : Nat}

/-- The entry at a place of an ascending list has as many smaller ones in it as stand before it. -/
theorem Ordered.getElem?_eq_some_iff {α : Type} {key : α → Nat} {xs : List α} {x : α}
    (h : Ordered.Ascending key xs) :
    xs[r]? = some x ↔ x ∈ xs ∧ xs.countP (key · < key x) = r := by
  induction xs generalizing r with
  | nil => simp
  | cons y ys ih =>
    obtain ⟨hy, hys⟩ := List.pairwise_cons.1 h
    have hfirst : (y :: ys).countP (key · < key y) = 0 := by
      rw [List.countP_eq_zero]
      intro z hz
      rcases List.mem_cons.1 hz with rfl | hz
      · simp
      · simpa using (hy z hz).le
    have hlater (hx : x ∈ ys) : (y :: ys).countP (key · < key x) = ys.countP (key · < key x) + 1 :=
      List.countP_cons_of_pos (by simpa using hy x hx)
    cases r with
    | zero =>
      rw [List.getElem?_cons_zero, Option.some.injEq]
      constructor
      · rintro rfl
        exact ⟨List.mem_cons_self, hfirst⟩
      · rintro ⟨hx, hzero⟩
        rcases List.mem_cons.1 hx with rfl | hx
        · rfl
        · rw [hlater hx] at hzero
          contradiction
    | succ r =>
      rw [List.getElem?_cons_succ, ih hys]
      constructor
      · rintro ⟨hx, hr⟩
        exact ⟨List.mem_cons_of_mem y hx, by rw [hlater hx, hr]⟩
      · rintro ⟨hx, hr⟩
        rcases List.mem_cons.1 hx with rfl | hx
        · rw [hfirst] at hr
          contradiction
        · exact ⟨hx, Nat.succ.inj ((hlater hx).symm.trans hr)⟩

namespace Fingerprints

/-- How many fingerprints of the same hash come before one. -/
def rank (f : Fingerprints) (g : KGram) : Nat :=
  f.toList.countP fun x => x.hash = g.hash ∧ x.position < g.position

@[simp] theorem ascending_withHash (f : Fingerprints) (h : Nat) :
    Ordered.Ascending KGram.position (f.withHash h) := f.ascending.filter _

@[grind =] theorem length_withHash (f : Fingerprints) (h : Nat) :
    (f.withHash h).length = f.toList.countP (·.hash = h) := by
  rw [withHash, List.countP_eq_length_filter]
  rfl

/-- Fingerprints of one hash stand in the order of their ranks. -/
@[grind =] theorem getElem?_withHash :
    (f.withHash h)[r]? = some g ↔ g ∈ f.toList ∧ g.hash = h ∧ f.rank g = r := by
  rw [Ordered.getElem?_eq_some_iff (f.ascending_withHash h), mem_withHash, and_assoc]
  refine and_congr_right fun _ => and_congr_right fun hg => ?_
  subst hg
  simp only [withHash, rank, List.countP_filter, beq_eq_decide, Bool.decide_and, Bool.and_comm]

end Fingerprints

end Ranks

/-! ## Collisions of one hash -/

def Collision.place (e : Collision) : Nat ×ₗ Nat ×ₗ Nat :=
  toLex (e.source.hash, toLex (e.source.position, e.target.position))

/-- Places are ordered by hash, then by the source position, then by the target position. -/
theorem Collision.place_lt {a b : Collision} :
    a.place < b.place ↔ a.source.hash < b.source.hash ∨ a.source.hash = b.source.hash ∧
      (a.source.position < b.source.position ∨ a.source.position = b.source.position ∧
        a.target.position < b.target.position) := by
  simp only [place, Prod.Lex.toLex_lt_toLex]

namespace Bucket

variable {b : Bucket} {e : Collision}

theorem mem_zipWith_iff {ss ts : List KGram} :
    e ∈ ss.zipWith Collision.mk ts ↔
      ∃ r : Nat, ss[r]? = some e.source ∧ ts[r]? = some e.target := by
  rw [List.mem_iff_getElem?]
  refine exists_congr fun r => ?_
  rw [List.getElem?_zipWith_eq_some]
  constructor
  · rintro ⟨x, y, hx, hy, rfl⟩
    exact ⟨hx, hy⟩
  · rintro ⟨hx, hy⟩
    exact ⟨e.source, e.target, hx, hy, rfl⟩

/-- A bucket within the limit pairs every source with every target, a larger one pairs equal
ranks. -/
theorem mem_collisions_crossProduct :
    e ∈ b.collisions .crossProduct ↔
      if b.sources.length * b.targets.length ≤ exhaustivePairs then
        e.source ∈ b.sources ∧ e.target ∈ b.targets
      else ∃ r : Nat, b.sources[r]? = some e.source ∧ b.targets[r]? = some e.target := by
  simp only [collisions]
  split
  · simp only [List.mem_flatMap, List.mem_map]
    constructor
    · rintro ⟨x, hx, y, hy, rfl⟩
      exact ⟨hx, hy⟩
    · rintro ⟨hx, hy⟩
      exact ⟨e.source, hx, e.target, hy, rfl⟩
  · exact mem_zipWith_iff

@[simp] theorem mem_collisions_firstOnly :
    e ∈ b.collisions .firstOnly ↔
      b.sources[0]? = some e.source ∧ b.targets[0]? = some e.target := by
  cases b with
  | mk h ss ts =>
    cases ss with
    | nil => simp [collisions]
    | cons s ss =>
      cases ts with
      | nil => simp [collisions]
      | cons t ts =>
        cases e
        simp [collisions, eq_comm]

@[simp] theorem length_collisions_crossProduct (b : Bucket) :
    (b.collisions .crossProduct).length =
      if b.sources.length * b.targets.length ≤ exhaustivePairs then
        b.sources.length * b.targets.length
      else min b.sources.length b.targets.length := by
  simp only [collisions]
  split
  · simp [List.length_flatMap]
  · exact List.length_zipWith

@[simp] theorem length_collisions_firstOnly (b : Bucket) :
    (b.collisions .firstOnly).length = min 1 (min b.sources.length b.targets.length) := by
  simp [collisions]

/-- A hash never has more than four times as many collisions as fingerprints. -/
theorem length_collisions_le (b : Bucket) :
    (b.collisions .crossProduct).length ≤ 4 * (b.sources.length + b.targets.length) := by
  rw [length_collisions_crossProduct]
  generalize b.sources.length = m, b.targets.length = n
  split
  · next hle =>
    have hmean : 4 * m * n ≤ (m + n) ^ 2 := four_mul_le_sq_add m n
    have hsquare : (m * n) ^ 2 ≤ (4 * (m + n)) ^ 2 :=
      calc (m * n) ^ 2 = m * n * (m * n) := sq (m * n)
        _ ≤ 64 * (m * n) := Nat.mul_le_mul_right _ hle
        _ = 16 * (4 * m * n) := by ring
        _ ≤ 16 * (m + n) ^ 2 := Nat.mul_le_mul_left _ hmean
        _ = (4 * (m + n)) ^ 2 := by ring
    exact (Nat.pow_le_pow_iff_left two_ne_zero).1 hsquare
  · omega

section Order

variable (hs : Ordered.Ascending KGram.position b.sources)
  (hhash : ∀ g ∈ b.sources, g.hash = b.hash)

include hs hhash

theorem pairwise_byRank (ts : List KGram) :
    (b.sources.zipWith Collision.mk ts).Pairwise fun x y => x.place < y.place := by
  rw [List.pairwise_iff_getElem]
  intro i j hi hj hij
  rw [List.getElem_zipWith, List.getElem_zipWith, Collision.place_lt]
  rw [List.length_zipWith] at hi hj
  have hposition := List.pairwise_iff_getElem.1 hs i j (by omega) (by omega) hij
  have heq : b.sources[i].hash = b.sources[j].hash :=
    (hhash _ (List.getElem_mem _)).trans (hhash _ (List.getElem_mem _)).symm
  exact .inr ⟨heq, .inl hposition⟩

/-- The collisions of one bucket come in the order of their places, whichever way they are
paired. -/
theorem pairwise_collisions (p : Pairing) (ht : Ordered.Ascending KGram.position b.targets) :
    (b.collisions p).Pairwise fun x y => x.place < y.place := by
  have hrank := pairwise_byRank hs hhash b.targets
  cases p with
  | firstOnly => exact hrank.sublist (List.take_sublist 1 _)
  | crossProduct =>
    simp only [collisions]
    split
    · rw [List.pairwise_flatMap]
      constructor
      · intro x _
        rw [List.pairwise_map]
        refine ht.imp ?_
        intro y z hlt
        exact Collision.place_lt.2 (.inr ⟨rfl, .inr ⟨rfl, hlt⟩⟩)
      · refine List.Pairwise.imp_of_mem ?_ hs
        intro x y hx hy hlt e he f hf
        obtain ⟨_, -, rfl⟩ := List.mem_map.1 he
        obtain ⟨_, -, rfl⟩ := List.mem_map.1 hf
        exact Collision.place_lt.2 (.inr ⟨(hhash x hx).trans (hhash y hy).symm, .inl hlt⟩)
    · exact hrank

end Order

end Bucket

/-! ## Collisions of all hashes -/

namespace Overlap

variable {s t : Fingerprints} {c d : CommentSet} {p : Pairing} {e : Collision}

/-- The fingerprints of both files that have the hash, also where one has none. -/
def bucketOf (s t : Fingerprints) (h : Nat) : Bucket := ⟨h, s.withHash h, t.withHash h⟩

@[simp] theorem pairwise_bucketOf (s t : Fingerprints) (h : Nat) :
    ((bucketOf s t h).collisions p).Pairwise fun x y => x.place < y.place :=
  Bucket.pairwise_collisions (s.ascending_withHash h)
    (fun _ hg => (Fingerprints.mem_withHash.1 hg).2) p (t.ascending_withHash h)

theorem eq_bucketOf {b : Bucket} (hb : b ∈ (of s t c d).shared) :
    b = bucketOf s t b.hash := by
  obtain ⟨h, -, -, rfl⟩ := mem_shared.1 hb
  rfl

@[grind →] theorem hash_of_mem_bucketOf {h : Nat} (he : e ∈ (bucketOf s t h).collisions p) :
    e.source.hash = h :=
  (Fingerprints.mem_withHash.1 (Bucket.mem_of_mem_collisions he).1).2

/-- Collisions come in ascending order of their hashes and positions. -/
theorem pairwise_collisions :
    ((of s t c d).collisions p).Pairwise fun x y => x.place < y.place := by
  rw [collisions, List.pairwise_flatMap]
  constructor
  · intro b hb
    rw [eq_bucketOf hb]
    exact pairwise_bucketOf s t b.hash
  · refine List.Pairwise.imp_of_mem ?_ pairwise_shared
    intro a b ha hb hlt x hx y hy
    rw [eq_bucketOf ha] at hx
    rw [eq_bucketOf hb] at hy
    rw [Collision.place_lt, hash_of_mem_bucketOf hx, hash_of_mem_bucketOf hy]
    exact .inl hlt

/-- A collision is one of the fingerprints with its hash. -/
theorem mem_collisions_iff :
    e ∈ (of s t c d).collisions p ↔ e ∈ (bucketOf s t e.source.hash).collisions p := by
  rw [mem_collisions]
  constructor
  · rintro ⟨b, hb, he⟩
    rw [eq_bucketOf hb] at he
    rwa [hash_of_mem_bucketOf he]
  · intro he
    obtain ⟨hs, ht⟩ := Bucket.mem_of_mem_collisions he
    rw [bucketOf, Fingerprints.mem_withHash] at hs ht
    exact ⟨_, mem_shared.2 ⟨_, ⟨_, hs⟩, ⟨_, ht⟩, rfl⟩, he⟩

/-- The collisions of one hash. -/
theorem filter_collisions (h : Nat) :
    ((of s t c d).collisions p).filter (·.source.hash = h) = (bucketOf s t h).collisions p := by
  -- Both lists ascend, so they are equal as soon as they have the same members.
  have : Std.Irrefl fun x y : Collision => x.place < y.place := ⟨fun x => lt_irrefl x.place⟩
  have : Std.Antisymm fun x y : Collision => x.place < y.place :=
    ⟨fun x y hxy hyx => absurd hxy hyx.asymm⟩
  refine List.Pairwise.eq_of_mem_iff (pairwise_collisions.filter _) (pairwise_bucketOf s t h)
    fun e => ?_
  rw [List.mem_filter, mem_collisions_iff, decide_eq_true_eq]
  constructor
  · rintro ⟨he, rfl⟩
    exact he
  · intro he
    have heq := hash_of_mem_bucketOf he
    exact ⟨by rwa [heq], heq⟩

/-- The collisions of the cross product, told by the fingerprints of the two files alone. -/
theorem mem_collisions_crossProduct_iff :
    e ∈ (of s t c d).collisions .crossProduct ↔
      e.source ∈ s.toList ∧ e.target ∈ t.toList ∧ e.source.hash = e.target.hash ∧
        ((s.withHash e.source.hash).length * (t.withHash e.source.hash).length ≤ exhaustivePairs ∨
          s.rank e.source = t.rank e.target) := by
  rw [mem_collisions_iff, Bucket.mem_collisions_crossProduct]
  simp only [bucketOf, Fingerprints.getElem?_withHash, Fingerprints.mem_withHash]
  split
  · next hle =>
    simp only [hle]
    grind
  · next hgt =>
    simp only [hgt]
    grind

theorem mem_collisions_firstOnly_iff :
    e ∈ (of s t c d).collisions .firstOnly ↔
      e.source ∈ s.toList ∧ e.target ∈ t.toList ∧ e.source.hash = e.target.hash ∧
        s.rank e.source = 0 ∧ t.rank e.target = 0 := by
  rw [mem_collisions_iff, Bucket.mem_collisions_firstOnly]
  simp only [bucketOf, Fingerprints.getElem?_withHash]
  grind

/-! ## How many collisions there are -/

@[simp] theorem length_collisions_firstOnly :
    ((of s t c d).collisions .firstOnly).length = (of s t c d).commonHashes := by
  have hone (b : Bucket) (hb : b ∈ (of s t c d).shared) : (b.collisions .firstOnly).length = 1 := by
    obtain ⟨h, ⟨g, hg⟩, ⟨g', hg'⟩, rfl⟩ := mem_shared.1 hb
    have hs := List.length_pos_of_mem (Fingerprints.mem_withHash.2 hg)
    have ht := List.length_pos_of_mem (Fingerprints.mem_withHash.2 hg')
    rw [Bucket.length_collisions_firstOnly]
    dsimp only
    omega
  rw [collisions, List.length_flatMap, List.map_congr_left hone, commonHashes]
  simp

/-- The fingerprints of one side of all buckets are fingerprints of a file, each once. -/
theorem sum_length_side_le {f : Fingerprints} {side : Bucket → List KGram}
    (hside : ∀ b ∈ (of s t c d).shared, side b = f.withHash b.hash) :
    ((of s t c d).shared.map fun b => (side b).length).sum ≤ f.size := by
  have hnodup : ((of s t c d).shared.flatMap fun b => f.withHash b.hash).Nodup := by
    rw [List.nodup_flatMap]
    constructor
    · intro b _
      exact (f.ascending_withHash b.hash).imp fun hlt => ne_of_apply_ne KGram.position hlt.ne
    · -- No fingerprint has the hashes of two buckets.
      refine pairwise_shared.imp ?_
      intro a b hlt g hga hgb
      rw [Fingerprints.mem_withHash] at hga hgb
      omega
  have hsub : ((of s t c d).shared.flatMap fun b => f.withHash b.hash) ⊆ f.toList := by
    intro g hg
    obtain ⟨b, -, hgb⟩ := List.mem_flatMap.1 hg
    exact (Fingerprints.mem_withHash.1 hgb).1
  have hle := (hnodup.subperm hsub).length_le
  rw [List.length_flatMap] at hle
  rwa [List.map_congr_left fun b hb => congrArg List.length (hside b hb)]

/-- There are at most four times as many collisions as fingerprints. -/
theorem length_collisions_le :
    ((of s t c d).collisions .crossProduct).length ≤ 4 * (s.size + t.size) := by
  have hs : ((of s t c d).shared.map fun b => b.sources.length).sum ≤ s.size :=
    sum_length_side_le fun b hb => congrArg Bucket.sources (eq_bucketOf hb)
  have ht : ((of s t c d).shared.map fun b => b.targets.length).sum ≤ t.size :=
    sum_length_side_le fun b hb => congrArg Bucket.targets (eq_bucketOf hb)
  calc ((of s t c d).collisions .crossProduct).length
      = ((of s t c d).shared.map fun b => (b.collisions .crossProduct).length).sum := by
        rw [collisions, List.length_flatMap]
    _ ≤ ((of s t c d).shared.map fun b => 4 * (b.sources.length + b.targets.length)).sum :=
        List.sum_le_sum fun b _ => b.length_collisions_le
    _ = 4 * (((of s t c d).shared.map fun b => b.sources.length).sum +
          ((of s t c d).shared.map fun b => b.targets.length).sum) := by
        rw [List.sum_map_mul_left, List.sum_map_add]
    _ ≤ 4 * (s.size + t.size) := by omega

end Overlap

/-- The collisions of two sets of fingerprints ascend in their hashes, then in the positions of the
first and of the second file. Each with each, fingerprints of one hash all collide if that makes no
more than 64 collisions, and else those of the same rank; by first ones, only the two of lowest
position. That leads to one collision for each shared hash, and to no more than four for each
fingerprint. Exchanging the files exchanges the sides of all collisions. Numbered one by one from
maps of buckets, with all accesses checked, the collisions are the same. -/
theorem collisions_enumerated (s t : Fingerprints) (c d : CommentSet) :
    let o := Overlap.of s t c d
    let sources h := s.toList.countP (·.hash = h)
    let targets h := t.toList.countP (·.hash = h)
    let shares (e : Collision) : Prop :=
      e.source ∈ s.toList ∧ e.target ∈ t.toList ∧ e.source.hash = e.target.hash
    (∀ p, enumerate? s t p = some (o.collisions p)) ∧
      (∀ p, ((o.collisions p).map Collision.place).Pairwise (· < ·)) ∧
      (∀ e, e ∈ o.collisions .crossProduct ↔ shares e ∧
        (sources e.source.hash * targets e.source.hash ≤ 64 ∨ s.rank e.source = t.rank e.target)) ∧
      (∀ e, e ∈ o.collisions .firstOnly ↔
        shares e ∧ s.rank e.source = 0 ∧ t.rank e.target = 0) ∧
      (∀ h, (o.collisions .crossProduct).countP (·.source.hash = h) =
        if sources h * targets h ≤ 64 then sources h * targets h
        else min (sources h) (targets h)) ∧
      (∀ h, (o.collisions .firstOnly).countP (·.source.hash = h) =
        min 1 (min (sources h) (targets h))) ∧
      (o.collisions .firstOnly).length = o.commonHashes ∧
      (o.collisions .crossProduct).length ≤ 4 * (s.size + t.size) ∧
      ∀ p, ((Overlap.of t s d c).collisions p).Perm ((o.collisions p).map Collision.swap) := by
  intro o sources targets shares
  have hcount (p : Pairing) (h : Nat) : (o.collisions p).countP (·.source.hash = h) =
      ((Overlap.bucketOf s t h).collisions p).length := by
    rw [List.countP_eq_length_filter, Overlap.filter_collisions]
  refine ⟨enumerate?_eq s t c d, fun p => List.pairwise_map.2 Overlap.pairwise_collisions,
    fun e => ?_, fun e => ?_, fun h => ?_, fun h => ?_, Overlap.length_collisions_firstOnly,
    Overlap.length_collisions_le, fun p => Overlap.collisions_swap⟩
  · simp only [shares, sources, targets, and_assoc, ← Fingerprints.length_withHash]
    exact Overlap.mem_collisions_crossProduct_iff
  · simp only [shares, and_assoc]
    exact Overlap.mem_collisions_firstOnly_iff
  · simp only [sources, targets, ← Fingerprints.length_withHash]
    exact (hcount .crossProduct h).trans (Bucket.length_collisions_crossProduct _)
  · simp only [sources, targets, ← Fingerprints.length_withHash]
    exact (hcount .firstOnly h).trans (Bucket.length_collisions_firstOnly _)

end Lookalike
