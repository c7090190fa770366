import Lookalike.Proofs.Decimal.Quotient
import Lookalike.Proofs.Exchange

/-!
# Laws of the score

The score counts different hashes that both files have, and measures them by the number of
fingerprints of the smaller file, of which several may have one hash. As an exact fraction it is
never above 1. It is 0 for files that have nothing in common, and 1 for those of which the smaller
one has fingerprints of different hashes that all occur in the other file. The number that a report
shows is 0 or 1 only if the fraction is, as long as the counts are numbers without rounding.

## Main definitions

* `Overlap.fraction` — the score as an exact fraction.
* `Fingerprints.OnceIn` — fingerprints of different hashes that another file has too.
* `CommentSet.add`, `Index.withComment` — one more comment.

## Main statements

* `Overlap.commonHashes_eq_card`, `CommentSet.countCommon_eq_card` — what is counted.
* `Overlap.fraction_eq_zero_iff`, `Overlap.fraction_eq_one_iff` — the ends of the scale.
* `score_laws` — all laws together.
-/

namespace Lookalike

/-! ## Common comments -/

namespace CommentSet

variable {c d : CommentSet} {text : String}

def add (c : CommentSet) (text : String) : CommentSet := .ofList (text :: c.toList)

@[simp] theorem toFinset_add : (c.add text).toList.toFinset = insert text c.toList.toFinset := by
  ext s
  rw [List.mem_toFinset, Finset.mem_insert, List.mem_toFinset, ← List.mem_cons]
  exact Ordered.mem_ofList (fun _ _ _ _ h => h) s

theorem countCommon_eq_card :
    c.countCommon d = (c.toList.toFinset ∩ d.toList.toFinset).card := by
  rw [countCommon, List.countP_eq_length_filter,
    ← List.toFinset_card_of_nodup (c.nodup.filter _)]
  congr 1
  ext s
  simp [contains]

@[simp]
theorem countCommon_eq_zero_iff : c.countCommon d = 0 ↔ ∀ text ∈ c.toList, text ∉ d.toList := by
  simp [countCommon, contains]

/-- A comment that is new to both sets is one more common comment. -/
theorem countCommon_add (hc : text ∉ c.toList) :
    (c.add text).countCommon (d.add text) = c.countCommon d + 1 := by
  rw [countCommon_eq_card, countCommon_eq_card, toFinset_add, toFinset_add,
    ← Finset.insert_inter_distrib, Finset.card_insert_of_notMem (by simp [hc])]

end CommentSet

def Index.withComment (x : Index) (text : String) : Index :=
  { x with comments := x.comments.add text }

/-! ## Common hashes -/

namespace Fingerprints

def hashSet (f : Fingerprints) : Finset Nat := (f.toList.map KGram.hash).toFinset

/-- The fingerprints have different hashes, and the other file has all of them. -/
structure OnceIn (s t : Fingerprints) : Prop where
  nodup : (s.toList.map KGram.hash).Nodup
  shared : ∀ g ∈ s.toList, ∃ g' ∈ t.toList, g'.hash = g.hash

instance (s t : Fingerprints) : Decidable (s.OnceIn t) :=
  decidable_of_iff ((s.toList.map KGram.hash).Nodup ∧
    ∀ g ∈ s.toList, ∃ g' ∈ t.toList, g'.hash = g.hash) ⟨fun h => ⟨h.1, h.2⟩, fun h => ⟨h.1, h.2⟩⟩

variable {s t : Fingerprints}

@[simp] theorem card_hashSet_le : s.hashSet.card ≤ s.size :=
  (List.toFinset_card_le _).trans (List.length_map _).le

/-- There are as many hashes as fingerprints exactly when no hash occurs twice. -/
theorem card_hashSet_eq_iff : s.hashSet.card = s.size ↔ (s.toList.map KGram.hash).Nodup := by
  rw [size, ← List.length_map KGram.hash]
  exact Multiset.toFinset_card_eq_card_iff_nodup

theorem hashSet_subset_iff :
    s.hashSet ⊆ t.hashSet ↔ ∀ g ∈ s.toList, ∃ g' ∈ t.toList, g'.hash = g.hash := by
  simp [hashSet, Finset.subset_iff]

end Fingerprints

namespace Overlap

variable {s t : Fingerprints} {c d : CommentSet}

/-- The shared hashes are those that are among the hashes of both files. -/
theorem commonHashes_eq_card : (of s t c d).commonHashes = (s.hashSet ∩ t.hashSet).card := by
  have hnodup : ((of s t c d).shared.map Bucket.hash).Nodup :=
    List.pairwise_map.2 (pairwise_shared.imp fun h => h.ne)
  rw [commonHashes, ← List.length_map Bucket.hash, ← List.toFinset_card_of_nodup hnodup]
  congr 1
  ext h
  simp only [List.mem_toFinset, List.mem_map, mem_shared, Finset.mem_inter, Fingerprints.hashSet]
  constructor
  · rintro ⟨_, ⟨h, hs, ht, rfl⟩, rfl⟩
    exact ⟨hs, ht⟩
  · rintro ⟨hs, ht⟩
    exact ⟨_, ⟨h, hs, ht, rfl⟩, rfl⟩

@[simp] theorem commonHashes_eq_zero_iff : (of s t c d).commonHashes = 0 ↔
    ∀ g ∈ s.toList, ∀ g' ∈ t.toList, g.hash ≠ g'.hash := by
  rw [commonHashes_eq_card, Finset.card_eq_zero, ← Finset.disjoint_iff_inter_eq_empty,
    Finset.disjoint_left]
  simp only [Fingerprints.hashSet, List.mem_toFinset, List.mem_map, forall_exists_index, and_imp,
    forall_apply_eq_imp_iff₂, not_exists, not_and]
  exact forall₂_congr fun g _ => forall₂_congr fun g' _ => ne_comm

/-- A file has as many hashes in common as it has fingerprints only if its fingerprints have
different hashes and none is missing in the other file. -/
theorem commonHashes_eq_size_iff : (of s t c d).commonHashes = s.size ↔ s.OnceIn t := by
  have hle : (s.hashSet ∩ t.hashSet).card ≤ s.hashSet.card :=
    Finset.card_le_card Finset.inter_subset_left
  rw [commonHashes_eq_card]
  constructor
  · intro h
    have hcard : s.hashSet.card = s.size := Fingerprints.card_hashSet_le.antisymm (h ▸ hle)
    have hinter := Finset.eq_of_subset_of_card_le Finset.inter_subset_left (hcard.trans h.symm).le
    exact ⟨Fingerprints.card_hashSet_eq_iff.1 hcard,
      Fingerprints.hashSet_subset_iff.1 (Finset.inter_eq_left.1 hinter)⟩
  · rintro ⟨hnodup, hshared⟩
    rw [Finset.inter_eq_left.2 (Fingerprints.hashSet_subset_iff.2 hshared),
      Fingerprints.card_hashSet_eq_iff.2 hnodup]

/-- The shared hashes fill the smaller file only if they are all that each side of its size has. -/
theorem commonHashes_eq_smaller_iff : (of s t c d).commonHashes = (of s t c d).smaller ↔
    (s.size ≤ t.size → s.OnceIn t) ∧ (t.size ≤ s.size → t.OnceIn s) := by
  have hs := @commonHashes_eq_size_iff s t c d
  have ht := @commonHashes_eq_size_iff t s d c
  rw [commonHashes_swap] at ht
  rw [← hs, ← ht, show (of s t c d).smaller = min s.size t.size from rfl]
  omega

/-! ## The fraction -/

/-- The score as an exact fraction. It is 0 if its denominator is. -/
def fraction (o : Overlap) : ℚ := o.numerator / o.denominator

theorem fraction_eq_zero_iff_numerator :
    (of s t c d).fraction = 0 ↔ (of s t c d).numerator = 0 := by
  have hle := @numerator_le_denominator s t c d
  rw [fraction, div_eq_zero_iff, Nat.cast_eq_zero, Nat.cast_eq_zero]
  omega

theorem fraction_eq_one_iff_numerator (o : Overlap) :
    o.fraction = 1 ↔ 0 < o.denominator ∧ o.numerator = o.denominator := by
  rw [fraction]
  rcases Nat.eq_zero_or_pos o.denominator with hden | hden
  · simp [hden]
  · have hne : (o.denominator : ℚ) ≠ 0 := by exact_mod_cast hden.ne'
    rw [div_eq_one_iff_eq hne, Nat.cast_inj, and_iff_right hden]

/-- The fraction is zero exactly when neither a hash nor a comment is shared. -/
theorem fraction_eq_zero_iff : (of s t c d).fraction = 0 ↔
    (∀ g ∈ s.toList, ∀ g' ∈ t.toList, g.hash ≠ g'.hash) ∧ ∀ text ∈ c.toList, text ∉ d.toList := by
  rw [fraction_eq_zero_iff_numerator, numerator, Nat.add_eq_zero_iff, commonHashes_eq_zero_iff]
  exact and_congr_right fun _ => CommentSet.countCommon_eq_zero_iff

/-- The fraction is one exactly when there is something to count and a side that is not the larger
one has its hashes once, all of them also in the other. -/
theorem fraction_eq_one_iff : (of s t c d).fraction = 1 ↔ 0 < (of s t c d).denominator ∧
    (s.size ≤ t.size → s.OnceIn t) ∧ (t.size ≤ s.size → t.OnceIn s) := by
  rw [fraction_eq_one_iff_numerator, ← @commonHashes_eq_smaller_iff s t c d]
  exact and_congr_right fun _ => Nat.add_right_cancel_iff

theorem fraction_swap : (of t s d c).fraction = (of s t c d).fraction := by
  rw [fraction, fraction, numerator, numerator, denominator, denominator, commonHashes_swap,
    commonComments_swap, smaller_swap]

/-- A comment that is new to both files adds as much to the numerator as to the denominator. -/
theorem fraction_le_add {text : String} (hc : text ∉ c.toList) :
    (of s t c d).fraction ≤ (of s t (c.add text) (d.add text)).fraction := by
  have hle := @numerator_le_denominator s t c d
  have hnum : (of s t (c.add text) (d.add text)).numerator = (of s t c d).numerator + 1 :=
    congrArg ((of s t c d).commonHashes + ·) (CommentSet.countCommon_add hc)
  have hden : (of s t (c.add text) (d.add text)).denominator = (of s t c d).denominator + 1 :=
    congrArg ((of s t c d).smaller + ·) (CommentSet.countCommon_add hc)
  rw [fraction, fraction, hnum, hden]
  rcases Nat.eq_zero_or_pos (of s t c d).denominator with h | h
  · rw [h, Nat.cast_zero, div_zero]
    positivity
  · rw [div_le_div_iff₀ (by exact_mod_cast h) (by positivity)]
    norm_cast
    nlinarith

/-! ## The number -/

/-- Rounding does not make a score 0. -/
theorem score_eq_zero_iff (h : (of s t c d).denominator < 2 ^ 53) :
    (of s t c d).score = 0 ↔ (of s t c d).fraction = 0 := by
  have hle := @numerator_le_denominator s t c d
  have hsize : 2 ^ 53 < UInt64.size := by decide
  rw [fraction_eq_zero_iff_numerator, score]
  split_ifs with hden
  · exact iff_of_true rfl (by omega)
  · constructor
    · intro hscore
      by_contra hnum
      have hpos := ofNat_div_ofNat_pos (Nat.pos_of_ne_zero hnum) (by omega)
        (Nat.pos_of_ne_zero hden) (by omega)
      rw [hscore] at hpos
      exact absurd hpos (by decide)
    · intro hnum
      rw [hnum, zero_div_ofNat (Nat.pos_of_ne_zero hden) (by omega)]

/-- Rounding does not make a score 1. -/
theorem score_eq_one_iff (h : (of s t c d).denominator < 2 ^ 53) :
    (of s t c d).score = 1 ↔ (of s t c d).fraction = 1 := by
  have hle := @numerator_le_denominator s t c d
  have hzero : (0 : Float) ≠ 1 := by decide
  rw [fraction_eq_one_iff_numerator]
  rcases Nat.eq_zero_or_pos (of s t c d).numerator with hnum | hnum
  · have hscore := (score_eq_zero_iff h).2 (fraction_eq_zero_iff_numerator.2 hnum)
    rw [hscore]
    exact iff_of_false hzero (by omega)
  · rw [score, if_neg (by omega), ofNat_div_ofNat_eq_one_iff hnum hle h, and_iff_right (by omega)]

end Overlap

/-- Laws of the score of two files, which is the same for all options of a comparison and whichever
file comes first. The fraction never has a numerator above its denominator. It is 0 if the files
have neither a hash nor a comment in common. It is 1 if there is something to be counted and, of
every file that has no more fingerprints than the other, the hashes are different and the other file
has them all. One more comment in both files never lowers it.

Fingerprints are k-grams kept under their own positions. The score looks at nothing but their hashes
and their number, so it would be the same for k-grams kept under any other keys. -/
theorem score_laws (x y : Index) :
    let o := x.overlap y
    o.numerator ≤ o.denominator ∧
      (o.fraction = 0 ↔
        (∀ g ∈ x.fingerprints.toList, ∀ g' ∈ y.fingerprints.toList, g.hash ≠ g'.hash) ∧
          ∀ text ∈ x.comments.toList, text ∉ y.comments.toList) ∧
      (o.fraction = 1 ↔ 0 < o.denominator ∧
        (x.fingerprints.size ≤ y.fingerprints.size → x.fingerprints.OnceIn y.fingerprints) ∧
        (y.fingerprints.size ≤ x.fingerprints.size → y.fingerprints.OnceIn x.fingerprints)) ∧
      (y.overlap x).fraction = o.fraction ∧
      (∀ m n options, (compareIndexed x y m n options).score = o.score ∧
        (compareIndexed y x m n options).score = o.score) ∧
      (∀ text, text ∉ x.comments.toList → text ∉ y.comments.toList →
        o.fraction ≤ ((x.withComment text).overlap (y.withComment text)).fraction) ∧
      (o.denominator < 2 ^ 53 →
        (o.score = 0 ↔ o.fraction = 0) ∧ (o.score = 1 ↔ o.fraction = 1)) := by
  intro o
  exact ⟨Overlap.numerator_le_denominator, Overlap.fraction_eq_zero_iff,
    Overlap.fraction_eq_one_iff, Overlap.fraction_swap,
    fun _ _ _ => ⟨rfl, Overlap.score_swap⟩, fun _ hx _ => Overlap.fraction_le_add hx,
    fun h => ⟨Overlap.score_eq_zero_iff h, Overlap.score_eq_one_iff h⟩⟩

def threeFingerprints : Index :=
  ⟨[], .ofList [⟨10, 0, ⟨⟨1, 1⟩, ⟨1, 5⟩⟩⟩, ⟨20, 3, ⟨⟨4, 1⟩, ⟨4, 5⟩⟩⟩, ⟨20, 6, ⟨⟨7, 1⟩, ⟨7, 5⟩⟩⟩],
    .ofList ["# mine"]⟩

def oneFingerprint : Index := ⟨[], .ofList [⟨20, 1, ⟨⟨2, 1⟩, ⟨2, 5⟩⟩⟩], .ofList ["# theirs"]⟩

/-- The smaller file has one fingerprint, which occurs twice in the other file. -/
theorem score_laws_oneFingerprint :
    let o := threeFingerprints.overlap oneFingerprint
    "# shared" ∉ threeFingerprints.comments.toList ∧ "# shared" ∉ oneFingerprint.comments.toList ∧
      o.denominator < 2 ^ 53 ∧ o.score = 1 ∧
      1 ≤ ((threeFingerprints.withComment "# shared").overlap
        (oneFingerprint.withComment "# shared")).fraction := by
  intro o
  have hx : "# shared" ∉ threeFingerprints.comments.toList := by decide +kernel
  have hy : "# shared" ∉ oneFingerprint.comments.toList := by decide +kernel
  have hden : o.denominator < 2 ^ 53 := by decide +kernel
  obtain ⟨-, -, hone, -, -, hadd, hscore⟩ := score_laws threeFingerprints oneFingerprint
  have hfraction : o.fraction = 1 := hone.2 (by decide +kernel)
  exact ⟨hx, hy, hden, (hscore hden).2.2 hfraction, hfraction.ge.trans (hadd "# shared" hx hy)⟩

end Lookalike
