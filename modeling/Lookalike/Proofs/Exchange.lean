import Lookalike.Proofs.Alignment.Longest
import Lookalike.Proofs.Layout
import Mathlib.Data.Multiset.Bind

/-!
# Exchanging the files

When the two files of a comparison are exchanged, the score stays the same, collisions have their
sides exchanged, and as much as before is aligned around each of them. Merging does not tell the
sides apart either. But of several longest common subsequences the alignment takes one that depends
on which file is first, so the regions have their sides exchanged only where there is no choice.

## Main definitions

* `Region.swap`, `Collision.swap`, `Bucket.swap` — the sides exchanged.

## Main statements

* `Overlap.score_swap`, `Overlap.collisions_swap` — score and collisions.
* `mergeAll_map_swap` — merging does not tell the sides apart.
* `compareIndexed_swap` — what becomes of a report.
* `compareIndexed_not_swapped` — files whose report shows another pair once they are exchanged.
-/

namespace Lookalike

/-! ## Overlap -/

def Collision.swap (c : Collision) : Collision := ⟨c.target, c.source⟩

def Bucket.swap (b : Bucket) : Bucket := ⟨b.hash, b.targets, b.sources⟩

@[simp] theorem CommentSet.nodup (c : CommentSet) : c.toList.Nodup := by
  refine c.ascending.imp fun hlt heq => ?_
  subst heq
  exact Std.lt_irrefl hlt

/-- The shared comments are counted alike from both sides. -/
theorem CommentSet.countCommon_comm (c d : CommentSet) : c.countCommon d = d.countCommon c := by
  rw [countCommon, countCommon, List.countP_eq_length_filter, List.countP_eq_length_filter]
  apply List.Perm.length_eq
  rw [List.perm_ext_iff_of_nodup (c.nodup.filter _) (d.nodup.filter _)]
  intro text
  simp [contains, and_comm]

/-- Pairing each with each, or by rank, or only the first ones, does not tell the sides apart. -/
theorem Bucket.collisions_swap (p : Pairing) (b : Bucket) :
    (b.swap.collisions p).Perm ((b.collisions p).map Collision.swap) := by
  have hrank : b.targets.zipWith Collision.mk b.sources =
      (b.sources.zipWith Collision.mk b.targets).map Collision.swap := by
    rw [List.zipWith_comm, List.map_zipWith]
    rfl
  cases p with
  | firstOnly => simp [Bucket.collisions, Bucket.swap, hrank, List.map_take]
  | crossProduct =>
    simp only [Bucket.collisions, Bucket.swap, Nat.mul_comm b.targets.length]
    split
    · rw [List.map_flatMap, ← Multiset.coe_eq_coe]
      simp only [← Multiset.coe_bind, ← Multiset.map_coe, Multiset.map_map]
      exact Multiset.bind_map_comm _ _
    · rw [hrank]

namespace Overlap

variable {s t : Fingerprints} {c d : CommentSet} {p : Pairing}

/-- Exchanged sides share the exchanged buckets, in the same order. -/
theorem shared_swap : (of t s d c).shared = (of s t c d).shared.map Bucket.swap := by
  have hsorted : ((of s t c d).shared.map Bucket.swap).Pairwise fun a b => a.hash < b.hash :=
    List.pairwise_map.2 pairwise_shared
  have : Std.Irrefl fun a b : Bucket => a.hash < b.hash := ⟨fun a => lt_irrefl a.hash⟩
  have : Std.Antisymm fun a b : Bucket => a.hash < b.hash :=
    ⟨fun a b hab hba => absurd hba hab.asymm⟩
  refine List.Pairwise.eq_of_mem_iff (@pairwise_shared t s d c) hsorted fun b => ?_
  simp only [List.mem_map, mem_shared]
  constructor
  · rintro ⟨h, ht, hs, rfl⟩
    exact ⟨_, ⟨h, hs, ht, rfl⟩, rfl⟩
  · rintro ⟨_, ⟨h, hs, ht, rfl⟩, rfl⟩
    exact ⟨h, ht, hs, rfl⟩

/-- Exchanged sides have the same collisions, which a bucket may list in another order. -/
theorem collisions_swap :
    ((of t s d c).collisions p).Perm (((of s t c d).collisions p).map Collision.swap) := by
  rw [collisions, collisions, shared_swap, List.flatMap_map, List.map_flatMap]
  exact List.Perm.flatMap_left _ fun b _ => Bucket.collisions_swap p b

theorem commonHashes_swap : (of t s d c).commonHashes = (of s t c d).commonHashes := by
  rw [commonHashes, shared_swap, List.length_map]
  rfl

theorem commonComments_swap : (of t s d c).commonComments = (of s t c d).commonComments :=
  CommentSet.countCommon_comm d c

theorem smaller_swap : (of t s d c).smaller = (of s t c d).smaller := min_comm _ _

/-- The score does not depend on which file is the source. -/
theorem score_swap : (of t s d c).score = (of s t c d).score := by
  rw [score, score, numerator, numerator, denominator, denominator, commonHashes_swap,
    commonComments_swap, smaller_swap]

end Overlap

/-! ## Regions -/

namespace Region

def swap (r : Region) : Region := ⟨r.target, r.source⟩

variable {a b : Region}

@[simp, grind =] theorem swap_overlaps_swap : a.swap.Overlaps b.swap ↔ a.Overlaps b := or_comm

@[simp, grind =] theorem normalized_swap (a : Region) : a.swap.normalized = a.normalized.swap := rfl

@[simp, grind =] theorem swap_join_swap (a b : Region) : a.swap.join b.swap = (a.join b).swap := rfl

end Region

section Merge

open Region

variable {rs : List Region}

/-- Absorbing a region treats the two sides alike. -/
@[simp, grind =] theorem absorb_map_swap (r : Region) (cs : List Region) :
    absorb r.swap (cs.map swap) = (absorb r cs).map swap := by
  induction cs with
  | nil => simp [absorb]
  | cons c cs ih =>
    simp only [List.map_cons, absorb, swap_overlaps_swap]
    split
    · rw [swap_join_swap, List.map_cons]
    · rw [ih, List.map_cons]

@[simp, grind =] theorem absorbAll_map_swap (cs rs : List Region) :
    absorbAll (cs.map swap) (rs.map swap) = (absorbAll cs rs).map swap := by
  induction rs generalizing cs with
  | nil => rfl
  | cons r rs ih => rw [List.map_cons, absorbAll_cons, absorbAll_cons, absorb_map_swap, ih]

@[simp, grind =] theorem mergePass_map_swap (rs : List Region) :
    mergePass (rs.map swap) = (mergePass rs).map swap := absorbAll_map_swap [] rs

/-- Merging does not tell the sides apart. -/
theorem mergeAll_map_swap (rs : List Region) :
    mergeAll (rs.map swap) = (mergeAll rs).map swap := by
  induction rs using mergeAll.induct with
  | case1 rs next hlt =>
    rename_i ih
    have hlt' : (mergePass (rs.map swap)).length < (rs.map swap).length := by
      rwa [mergePass_map_swap, List.length_map, List.length_map]
    rw [mergeAll_of_lt hlt', @mergeAll_of_lt rs hlt, mergePass_map_swap, ih]
  | case2 rs next =>
    rename_i hge
    have hge' : ¬ (mergePass (rs.map swap)).length < (rs.map swap).length := by
      rwa [mergePass_map_swap, List.length_map, List.length_map]
    rw [mergeAll_of_not_lt hge', @mergeAll_of_not_lt rs hge, mergePass_map_swap]

end Merge

/-! ## Reports -/

theorem Alignment.toRegion?_swap {a b : Alignment} (h : b.pairs = a.pairs.map Prod.swap) :
    b.toRegion? = a.toRegion?.map Region.swap := by
  rw [toRegion?, toRegion?, h]
  by_cases hnil : a.pairs = []
  · simp [hnil]
  · simp [hnil, source, target, h, Region.swap, Function.comp_def]

section Reports

variable {x y : Index} {options : Options}

/-- There is only one way to align as much as possible around the collision. -/
def Collision.Clear (c : Collision) (x y : Index) (w : Nat) : Prop :=
  OneLongest (neighborhood x.kgrams c.source.position w) (neighborhood y.kgrams c.target.position w)

/-- When every collision has one longest alignment around it, exchanged files align to the
exchanged regions. -/
theorem alignedRegions_swap
    (h : ∀ c ∈ (x.overlap y).collisions options.pairing, c.Clear x y options.w) :
    (alignedRegions y x (y.overlap x) options).Perm
      ((alignedRegions x y (x.overlap y) options).map Region.swap) := by
  have hcollisions : ((y.overlap x).collisions options.pairing).Perm
      (((x.overlap y).collisions options.pairing).map Collision.swap) := Overlap.collisions_swap
  refine (hcollisions.filterMap _).trans (List.Perm.of_eq ?_)
  rw [alignedRegions, List.filterMap_map, List.map_filterMap]
  exact List.filterMap_congr fun c hc => Alignment.toRegion?_swap (longestCommon_swap (h c hc))

/-- When the files are exchanged, the score stays the same, the collisions have their sides
exchanged, and as many k-grams as before are aligned around each. The regions have their sides
exchanged if there is only one way to align as much around every collision. -/
theorem compareIndexed_swap (x y : Index) (options : Options) (m n : Option String) :
    (compareIndexed y x n m options).score = (compareIndexed x y m n options).score ∧
      ((y.overlap x).collisions options.pairing).Perm
        (((x.overlap y).collisions options.pairing).map Collision.swap) ∧
      (∀ c : Collision, (alignAround c.swap y.kgrams x.kgrams options.w).pairs.length =
        (alignAround c x.kgrams y.kgrams options.w).pairs.length) ∧
      ((∀ c ∈ (x.overlap y).collisions options.pairing, c.Clear x y options.w) →
        (compareIndexed y x n m options).regions.Perm
          ((compareIndexed x y m n options).regions.map Region.swap)) := by
  refine ⟨Overlap.score_swap, Overlap.collisions_swap,
    fun c => length_longestCommon_comm _ _, fun h => ?_⟩
  have hmerged := mergeAll_perm (alignedRegions_swap h)
  rw [mergeAll_map_swap] at hmerged
  exact (List.mergeSort_perm _ _).trans
    (hmerged.trans ((List.mergeSort_perm _ _).symm.map Region.swap))

/-- Around every collision of one line with the same tokens on three lines there is one longest
alignment, so the regions of the exchanged files are the exchanged regions. -/
theorem compareIndexed_swap_threeLines :
    let first := Index.ofLexed ⟨1, 1, .crossProduct⟩ oneLine
    let second := Index.ofLexed ⟨1, 1, .crossProduct⟩ threeLines
    (∀ c ∈ (first.overlap second).collisions .crossProduct, c.Clear first second 1) ∧
      (compareIndexed second first none none ⟨1, 1, .crossProduct⟩).regions.Perm
        ((compareIndexed first second none none ⟨1, 1, .crossProduct⟩).regions.map
          Region.swap) := by
  intro first second
  have hhash : ∀ c ∈ (first.overlap second).collisions .crossProduct,
      (neighborhood first.kgrams c.source.position 1).map KGram.hash =
        (neighborhood second.kgrams c.target.position 1).map KGram.hash := by
    decide +kernel
  have hclear : ∀ c ∈ (first.overlap second).collisions .crossProduct, c.Clear first second 1 :=
    fun c hc => oneLongest_of_map_hash_eq (hhash c hc)
  exact ⟨hclear,
    (compareIndexed_swap first second ⟨1, 1, .crossProduct⟩ none none).2.2.2 hclear⟩

/-- Names and numbers in turn: whichever file comes first, all but its first token is aligned with
all but the last token of the other file. -/
theorem compareIndexed_not_swapped :
    let nameFirst := Index.ofLexed {} (eightLines .identifier .number)
    let numberFirst := Index.ofLexed {} (eightLines .number .identifier)
    InOrder (eightLines .identifier .number).tokens ∧
      InOrder (eightLines .number .identifier).tokens ∧
      ¬ ∀ r, r ∈ (compareIndexed numberFirst nameFirst none none {}).regions.map Region.swap ↔
        r ∈ (compareIndexed nameFirst numberFirst none none {}).regions := by
  intro nameFirst numberFirst
  refine ⟨eightLines_inOrder _ _, eightLines_inOrder _ _, fun h => ?_⟩
  have hmem : (⟨[⟨⟨2, 1⟩, ⟨8, 2⟩⟩], [⟨⟨1, 1⟩, ⟨7, 2⟩⟩]⟩ : Region) ∈
      (compareIndexed nameFirst numberFirst none none {}).regions := by
    decide +kernel
  revert hmem
  rw [← h]
  decide +kernel

end Reports

end Lookalike
