import Lookalike.Proofs.Decimal.Quotient
import Lookalike.Proofs.Layout

/-!
# Shared runs

Two files that share a run of tokens long enough for a window of k-grams are found to be similar.
The hash of a k-gram does not depend on what comes before it, so the windows inside the run have
the same hashes in both files and leave fingerprints at the same place of the run. Such a pair is
a collision, around which something is aligned, and no region is lost when regions are merged.

## Main definitions

* `SharedRun` — a run of tokens that occurs in two files.

## Main statements

* `SharedRun.exists_mem_winnow` — every window of the run leaves a fingerprint in both files.
* `sharedRun_detected` — files that share a run have a score and a region in common.
-/

namespace Lookalike

/-- The `m` tokens from index `a` of the first list on have the same values as those from index `b`
of the second list on. -/
structure SharedRun (xs ys : List Token) (a b m : Nat) : Prop where
  le_left : a + m ≤ xs.length
  le_right : b + m ≤ ys.length
  values : ((xs.map Token.value).drop a).take m = ((ys.map Token.value).drop b).take m

/-- K-grams with the same hash at the same place of a run that starts at `a` and at `b`. -/
structure AtSamePlace (a b : Nat) (g g' : KGram) : Prop where
  hash : g.hash = g'.hash
  position : g.position + b = g'.position + a

@[simp] theorem faithful_atSamePlace (a b : Nat) : KGram.Faithful (AtSamePlace a b) where
  hash h := h.hash
  position_lt h h' := by
    have := h.position
    have := h'.position
    omega

namespace SharedRun

variable {xs ys : List Token} {a b m i k n w : Nat}

/-- Windows at the same place of a shared run have the same values. -/
theorem values_drop (h : SharedRun xs ys a b m) (hn : n + k ≤ m) :
    ((xs.map Token.value).drop (a + n)).take k = ((ys.map Token.value).drop (b + n)).take k := by
  have hcut (vs : List TokenValue) (c : Nat) :
      (vs.drop (c + n)).take k = (((vs.drop c).take m).drop n).take k := by
    rw [List.drop_take, List.take_take, List.drop_drop, min_eq_left (by omega)]
  rw [hcut, hcut, h.values]

/-- The k-grams of a window inside the run are at the same places. -/
theorem forall₂_window (h : SharedRun xs ys a b m) (hk : 0 < k) (hi : i + w + k ≤ m + 1) :
    List.Forall₂ (AtSamePlace a b) (((kgrams xs k).drop (a + i)).take w)
      (((kgrams ys k).drop (b + i)).take w) := by
  have hleft := h.le_left
  have hright := h.le_right
  refine List.forall₂_iff_get.2 ⟨?_, fun n hn hn' => ?_⟩
  · simp only [List.length_take, List.length_drop, length_kgrams hk]
    omega
  · rw [List.length_take] at hn
    have hx := @getElem?_kgrams xs k (a + i + n) hk (by omega)
    have hy := @getElem?_kgrams ys k (b + i + n) hk (by omega)
    obtain ⟨_, hx⟩ := List.getElem?_eq_some_iff.1 hx
    obtain ⟨_, hy⟩ := List.getElem?_eq_some_iff.1 hy
    simp only [List.get_eq_getElem, List.getElem_take, List.getElem_drop, hx, hy]
    have hvalues := @values_drop _ _ _ _ _ k (i + n) h (by omega)
    rw [← Nat.add_assoc, ← Nat.add_assoc] at hvalues
    exact ⟨congrArg kgramHash hvalues, by dsimp only; omega⟩

/-- Every window inside the run leaves a fingerprint at the same place in both files. -/
theorem exists_mem_winnow (h : SharedRun xs ys a b m) (hk : 0 < k) (hw : 0 < w)
    (hi : i + w + k ≤ m + 1) :
    ∃ j, i ≤ j ∧ j < i + w ∧ ∃ g ∈ (winnow (kgrams xs k) w).toList,
      ∃ g' ∈ (winnow (kgrams ys k) w).toList,
        g.position = a + j ∧ g'.position = b + j ∧ g.hash = g'.hash := by
  have hleft := h.le_left
  have hright := h.le_right
  obtain ⟨g, hg, g', hg', hgg, hge, hlt⟩ := exists_mem_winnow_of_windows (faithful_atSamePlace a b)
    (kgrams_numbered xs k) (kgrams_numbered ys k) hw (by rw [length_kgrams hk]; omega)
    (by rw [length_kgrams hk]; omega) (h.forall₂_window hk hi)
  have hposition := hgg.position
  exact ⟨g.position - a, by omega, by omega, g, hg, g', hg', by omega, by omega, hgg.hash⟩

end SharedRun

/-- The score of files with a shared hash is positive, if its counts fit into 64 bits. -/
theorem Overlap.score_pos {s t : Fingerprints} {c d : CommentSet}
    (h : 0 < (Overlap.of s t c d).commonHashes)
    (hsize : (Overlap.of s t c d).denominator < UInt64.size) : 0 < (Overlap.of s t c d).score := by
  have hn : 0 < (Overlap.of s t c d).numerator := Nat.add_pos_left h _
  have hle := @Overlap.numerator_le_denominator s t c d
  rw [Overlap.score, if_neg (by omega)]
  exact ofNat_div_ofNat_pos hn (by omega) (by omega) hsize

/-- Files that share a run of at least `k + w - 1` tokens are similar. Each window of `w` k-grams
inside the run leaves a fingerprint of the same hash at the same place in both files. So they have
a hash in common and a positive score, if its counts fit into 64 bits, and whatever the pairing, a
region. -/
theorem sharedRun_detected {x y : Lexed} {options : Options} {a b m : Nat} (hk : 1 ≤ options.k)
    (hw : 1 ≤ options.w) (hm : options.k + options.w - 1 ≤ m)
    (h : SharedRun x.tokens y.tokens a b m) (options' : Options) (n n' : Option String) :
    let first := Index.ofLexed options x
    let second := Index.ofLexed options y
    (∀ i, i + options.w + options.k ≤ m + 1 → ∃ j, i ≤ j ∧ j < i + options.w ∧
      ∃ g ∈ first.fingerprints.toList, ∃ g' ∈ second.fingerprints.toList,
        g.position = a + j ∧ g'.position = b + j ∧ g.hash = g'.hash) ∧
      1 ≤ (first.overlap second).commonHashes ∧
      ((first.overlap second).denominator < UInt64.size →
        0 < (compareIndexed first second n n' options').score) ∧
      (compareIndexed first second n n' options').regions ≠ [] := by
  intro first second
  have hwindow (i : Nat) (hi : i + options.w + options.k ≤ m + 1) :=
    h.exists_mem_winnow hk hw hi
  obtain ⟨j, -, -, g, hg, g', hg', -, -, hh⟩ := hwindow 0 (by omega)
  have hcommon : 0 < (first.overlap second).commonHashes := Overlap.commonHashes_pos hg hg' hh
  exact ⟨hwindow, hcommon, Overlap.score_pos hcommon,
    regions_ne_nil (Index.sound_ofLexed _ _) (Index.sound_ofLexed _ _) hg hg' hh n n' options'⟩

/-- A call with a name, a sign and a number between its brackets. -/
def keywordArgument : Lexed :=
  ⟨[⟨⟨1, 1⟩, ⟨1, 2⟩, .identifier⟩, ⟨⟨1, 2⟩, ⟨1, 3⟩, .punctuation "("⟩,
    ⟨⟨1, 3⟩, ⟨1, 4⟩, .identifier⟩, ⟨⟨1, 4⟩, ⟨1, 5⟩, .punctuation "="⟩, ⟨⟨1, 5⟩, ⟨1, 6⟩, .number⟩,
    ⟨⟨1, 6⟩, ⟨1, 7⟩, .punctuation ")"⟩], .ofList []⟩

theorem sharedRun_keywordArgument : SharedRun oneLine.tokens keywordArgument.tokens 0 2 3 :=
  ⟨by decide, by decide, by decide⟩

/-- Three tokens shared at different places, with first-only pairing. -/
theorem keywordArgument_detected :
    SharedRun oneLine.tokens keywordArgument.tokens 0 2 3 ∧
      0 < (compareIndexed (.ofLexed ⟨2, 2, .firstOnly⟩ oneLine)
        (.ofLexed ⟨2, 2, .firstOnly⟩ keywordArgument) none none ⟨2, 2, .firstOnly⟩).score ∧
      (compareIndexed (.ofLexed ⟨2, 2, .firstOnly⟩ oneLine)
        (.ofLexed ⟨2, 2, .firstOnly⟩ keywordArgument) none none ⟨2, 2, .firstOnly⟩).regions ≠
          [] := by
  obtain ⟨-, -, hscore, hregions⟩ := @sharedRun_detected oneLine keywordArgument
    ⟨2, 2, .firstOnly⟩ 0 2 3 (by decide) (by decide) (by decide) sharedRun_keywordArgument
    ⟨2, 2, .firstOnly⟩ none none
  exact ⟨sharedRun_keywordArgument, hscore (by decide), hregions⟩

end Lookalike
