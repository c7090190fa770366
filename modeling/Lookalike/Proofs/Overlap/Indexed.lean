import Lookalike.Proofs.Overlap
import Lookalike.Proofs.RollingHash.Words

/-!
# Enumeration by number

The buckets of both files can be gathered in sorted maps, each fingerprint pushed to the end of its
bucket, and matched by taking every bucket of the first map out of the second. The collisions of a
matched bucket are numbered, and the places of the two fingerprints reckoned from the number.

Here products and divisions are checked, and so is every access to a bucket. No check ever fails,
and the collisions are those of the overlap, in the same order.

## Main definitions

* `Fingerprints.buckets`, `matchUp` — the maps, and the buckets that both have.
* `Bucket.enumerate?`, `enumerate?` — the collisions by their numbers.

## Main statements

* `matchUp_buckets` — the shared buckets.
* `enumerate?_eq` — the collisions, whatever the pairing.
-/

namespace Lookalike

/-! ## Numbers of collisions -/

def saturatingMul (m n : Nat) : Nat := min (m * n) (UInt64.size - 1)

def div? (m n : Nat) : Option Nat := if n = 0 then none else some (m / n)

def mod? (m n : Nat) : Option Nat := if n = 0 then none else some (m % n)

namespace Bucket

variable (p : Pairing) (b : Bucket)

def isExhaustive : Bool :=
  p = .crossProduct && saturatingMul b.sources.length b.targets.length ≤ exhaustivePairs

def count? : Option Nat :=
  match p with
  | .firstOnly => some (min (min 1 b.sources.length) b.targets.length)
  | .crossProduct =>
    if b.isExhaustive p then Words.mul? b.sources.length b.targets.length
    else some (min b.sources.length b.targets.length)

def places? (i : Nat) : Option (Nat × Nat) :=
  if b.isExhaustive p then do
    return (← div? i b.targets.length, ← mod? i b.targets.length)
  else some (i, i)

def collision? (i : Nat) : Option Collision := do
  let (source, target) ← b.places? p i
  return ⟨← b.sources[source]?, ← b.targets[target]?⟩

def enumerate? : Option (List Collision) := do
  (List.range (← b.count? p)).mapM (b.collision? p)

end Bucket

/-! ## Maps of buckets -/

/-- Puts a fingerprint at the end of its bucket. -/
def pushBucket (m : Std.TreeMap Nat (List KGram)) (g : KGram) : Std.TreeMap Nat (List KGram) :=
  m.alter g.hash fun gs => some (gs.getD [] ++ [g])

def Fingerprints.buckets (f : Fingerprints) : Std.TreeMap Nat (List KGram) :=
  f.toList.foldl pushBucket ∅

/-- The buckets of hashes that both maps have. Each is taken out of the second map. -/
def matchUp : List (Nat × List KGram) → Std.TreeMap Nat (List KGram) → List Bucket
  | [], _ => []
  | (h, sources) :: rest, m =>
    match m[h]? with
    | none => matchUp rest m
    | some targets => ⟨h, sources, targets⟩ :: matchUp rest (m.erase h)

/-- The collisions of two sets of fingerprints, if no check fails. -/
def enumerate? (s t : Fingerprints) (p : Pairing) : Option (List Collision) :=
  List.flatten <$> (matchUp s.buckets.toList t.buckets).mapM (·.enumerate? p)

/-! ## No check fails -/

/-- Saturation cannot bring a product below the limit, so the saturated count decides as the exact
one. -/
@[simp] theorem saturatingMul_le_exhaustivePairs {m n : Nat} :
    saturatingMul m n ≤ exhaustivePairs ↔ m * n ≤ exhaustivePairs := by
  simp only [saturatingMul, exhaustivePairs, UInt64.size]
  omega

section Numbers

variable {α β : Type}

/-- Reading the entries `0, …, n - 1` of a list of length `n` one by one gives the list. -/
theorem mapM_range_eq_some {f : Nat → Option α} {n : Nat} {xs : List α} (hn : xs.length = n)
    (h : ∀ i < n, f i = xs[i]?) : (List.range n).mapM f = some xs := by
  subst hn
  apply Words.mapM_eq_some
  rw [List.forall₂_iff_get]
  refine ⟨List.length_range, ?_⟩
  intro i hi _
  rw [List.length_range] at hi
  simp [h i hi, hi]

/-- An entry of a list made of pieces of one length is found from its number by division. -/
theorem getElem?_flatMap_map {γ : Type} (f : α → β → γ) (xs : List α) {ys : List β}
    (hys : ys ≠ []) (i : Nat) :
    (xs.flatMap fun x => ys.map (f x))[i]? =
      xs[i / ys.length]?.bind fun x => ys[i % ys.length]?.map (f x) := by
  have hpos : 0 < ys.length := List.length_pos_of_ne_nil hys
  induction xs generalizing i with
  | nil => simp
  | cons x xs ih =>
    rw [List.flatMap_cons]
    by_cases hi : i < ys.length
    · rw [List.getElem?_append_left (by simpa using hi), Nat.div_eq_of_lt hi, Nat.mod_eq_of_lt hi]
      simp
    · obtain ⟨j, rfl⟩ : ∃ j, i = j + ys.length := ⟨i - ys.length, by omega⟩
      rw [List.getElem?_append_right (by simp), List.length_map, Nat.add_sub_cancel, ih,
        Nat.add_div_right _ hpos, Nat.add_mod_right, List.getElem?_cons_succ]

end Numbers

namespace Bucket

variable {p : Pairing} {b : Bucket}

@[simp] theorem isExhaustive_iff :
    b.isExhaustive p = true ↔
      p = .crossProduct ∧ b.sources.length * b.targets.length ≤ exhaustivePairs := by
  simp [isExhaustive]

@[simp] theorem count?_eq : b.count? p = some (b.collisions p).length := by
  cases p with
  | firstOnly => simp [count?, collisions, Nat.min_assoc]
  | crossProduct =>
    simp only [count?, collisions, isExhaustive_iff, true_and]
    split
    · next h =>
      have hlt : b.sources.length * b.targets.length < 2 ^ 64 := h.trans_lt (by decide)
      simp [Words.mul?_eq hlt, List.length_flatMap]
    · simp

theorem collision?_of_not_isExhaustive (h : b.isExhaustive p = false) (i : Nat) :
    b.collision? p i = (b.sources.zipWith Collision.mk b.targets)[i]? := by
  have hplaces : b.places? p i = some (i, i) := by simp [places?, h]
  simp only [collision?, hplaces, List.getElem?_zipWith, Option.bind_eq_bind, Option.bind_some]
  cases b.sources[i]? <;> cases b.targets[i]? <;> rfl

/-- In a bucket with all of its pairs the quotient of the number picks the source and the remainder
picks the target. -/
theorem collision?_of_isExhaustive (h : b.isExhaustive p = true) (ht : b.targets ≠ []) (i : Nat) :
    b.collision? p i = (b.sources.flatMap fun s => b.targets.map (Collision.mk s))[i]? := by
  have hplaces : b.places? p i = some (i / b.targets.length, i % b.targets.length) := by
    simp [places?, h, div?, mod?, ht]
  rw [getElem?_flatMap_map _ _ ht]
  simp only [collision?, hplaces, Option.bind_eq_bind, Option.bind_some]
  cases b.sources[i / b.targets.length]? <;> cases b.targets[i % b.targets.length]? <;> rfl

/-- Every number below the count is that of a collision. -/
theorem collision?_eq {i : Nat} (hi : i < (b.collisions p).length) :
    b.collision? p i = (b.collisions p)[i]? := by
  cases p with
  | firstOnly =>
    have hzero : i = 0 := by simp [collisions] at hi; omega
    rw [collision?_of_not_isExhaustive (by simp [isExhaustive]), hzero]
    simp [collisions]
  | crossProduct =>
    cases h : b.isExhaustive .crossProduct with
    | true =>
      have ht : b.targets ≠ [] := by
        rintro ht
        simp [collisions, ht] at hi
      rw [collision?_of_isExhaustive h ht]
      simp [collisions, (isExhaustive_iff.1 h).2]
    | false =>
      have hlt : ¬ b.sources.length * b.targets.length ≤ exhaustivePairs := by
        intro hle
        simp [isExhaustive_iff.2 ⟨rfl, hle⟩] at h
      rw [collision?_of_not_isExhaustive h]
      simp [collisions, hlt]

@[simp]
theorem enumerate?_eq (p : Pairing) (b : Bucket) : b.enumerate? p = some (b.collisions p) := by
  simp only [enumerate?, count?_eq, Option.bind_eq_bind, Option.bind_some]
  exact mapM_range_eq_some rfl fun i hi => collision?_eq hi

end Bucket

/-! ## The maps hold the shared buckets -/

section Maps

variable {m : Std.TreeMap Nat (List KGram)} {g : KGram} {h : Nat}

@[simp, grind =] theorem getElem?_pushBucket :
    (pushBucket m g)[h]? = if g.hash = h then some (m[h]?.getD [] ++ [g]) else m[h]? := by
  simp only [pushBucket, Std.TreeMap.getElem?_alter, compare_eq_iff_eq]
  grind

/-- Pushed one by one, the fingerprints of a hash are a bucket, if there are any. -/
theorem getElem?_foldl_pushBucket (gs : List KGram) :
    (gs.foldl pushBucket ∅)[h]? =
      if gs.filter (·.hash == h) = [] then none else some (gs.filter (·.hash == h)) := by
  induction gs using List.reverseRecOn with
  | nil => simp
  | append_singleton gs g ih =>
    rw [List.foldl_append, List.foldl_cons, List.foldl_nil, getElem?_pushBucket, ih,
      List.filter_append]
    by_cases hg : g.hash = h
    · by_cases hgs : gs.filter (·.hash == h) = [] <;> simp [hg, hgs]
    · simp [hg]

/-- A hash has a bucket exactly when some fingerprint has it, and the bucket holds those
fingerprints in order. -/
@[grind =] theorem Fingerprints.getElem?_buckets (f : Fingerprints) :
    f.buckets[h]? = if f.withHash h = [] then none else some (f.withHash h) :=
  getElem?_foldl_pushBucket f.toList

@[simp] theorem Fingerprints.pairwise_hashes (f : Fingerprints) : f.hashes.Pairwise (· < ·) :=
  Ordered.ascending_ofList id _

theorem Fingerprints.toList_buckets (f : Fingerprints) :
    f.buckets.toList = f.hashes.map fun h => (h, f.withHash h) := by
  -- Both lists ascend, so they are equal as soon as they have the same members.
  have : Std.Irrefl fun x y : Nat × List KGram => x.1 < y.1 := ⟨fun x => lt_irrefl x.1⟩
  have : Std.Antisymm fun x y : Nat × List KGram => x.1 < y.1 :=
    ⟨fun x y hxy hyx => absurd hxy hyx.asymm⟩
  have hmap : f.buckets.toList.Pairwise fun x y => x.1 < y.1 :=
    Std.TreeMap.ordered_keys_toList.imp fun hlt => compare_lt_iff_lt.1 hlt
  have hlist : (f.hashes.map fun h => (h, f.withHash h)).Pairwise fun x y => x.1 < y.1 :=
    List.pairwise_map.2 f.pairwise_hashes
  refine hmap.eq_of_mem_iff hlist ?_
  rintro ⟨h, gs⟩
  rw [Std.TreeMap.mem_toList_iff_getElem?_eq_some, getElem?_buckets, List.mem_map]
  constructor
  · intro hgs
    split at hgs
    · contradiction
    · next hne =>
      obtain ⟨g, hg⟩ := List.exists_mem_of_ne_nil _ hne
      exact ⟨h, mem_hashes.2 ⟨g, mem_withHash.1 hg⟩, by grind⟩
  · rintro ⟨h', hh', heq⟩
    obtain ⟨g, hg⟩ := mem_hashes.1 hh'
    have hne : f.withHash h' ≠ [] := List.ne_nil_of_mem (mem_withHash.2 hg)
    grind

/-- Each bucket that is taken out belongs to another hash. -/
theorem matchUp_eq {xs : List (Nat × List KGram)} (hxs : (xs.map Prod.fst).Nodup) :
    matchUp xs m = xs.filterMap fun x => m[x.1]?.map fun targets => ⟨x.1, x.2, targets⟩ := by
  induction xs generalizing m with
  | nil => rfl
  | cons x xs ih =>
    obtain ⟨hx, hxs⟩ := List.nodup_cons.1 hxs
    rw [List.filterMap_cons, matchUp]
    cases hm : m[x.1]? with
    | none => simp [ih hxs]
    | some targets =>
      have hrest : ∀ y ∈ xs, (m.erase x.1)[y.1]? = m[y.1]? := by
        intro y hy
        have hne : x.1 ≠ y.1 := by grind
        simp [Std.TreeMap.getElem?_erase, hne]
      simp only [ih hxs, Option.map_some]
      exact congrArg _ (List.filterMap_congr fun y hy => by rw [hrest y hy])

end Maps

/-- The buckets matched are those of the overlap. -/
theorem matchUp_buckets (s t : Fingerprints) (c d : CommentSet) :
    matchUp s.buckets.toList t.buckets = (Overlap.of s t c d).shared := by
  have hnodup : (s.buckets.toList.map Prod.fst).Nodup := by
    rw [Fingerprints.toList_buckets, List.map_map]
    exact List.pairwise_map.2 (s.pairwise_hashes.imp fun hlt => hlt.ne)
  rw [matchUp_eq hnodup, Fingerprints.toList_buckets, List.filterMap_map]
  refine List.filterMap_congr fun h _ => ?_
  simp only [Function.comp_apply, Fingerprints.getElem?_buckets]
  cases t.withHash h <;> rfl

/-- Numbered, the collisions are found without a check failing. -/
theorem enumerate?_eq (s t : Fingerprints) (c d : CommentSet) (p : Pairing) :
    enumerate? s t p = some ((Overlap.of s t c d).collisions p) := by
  have hall : (Overlap.of s t c d).shared.mapM (·.enumerate? p) =
      some ((Overlap.of s t c d).shared.map (Bucket.collisions p)) := by
    apply Words.mapM_eq_some
    rw [List.forall₂_map_right_iff, List.forall₂_same]
    intro b _
    exact Bucket.enumerate?_eq p b
  rw [enumerate?, matchUp_buckets s t c d, hall, Overlap.collisions, List.flatMap_def]
  rfl

end Lookalike
