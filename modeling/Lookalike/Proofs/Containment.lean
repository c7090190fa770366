import Lookalike.Proofs.Decimal.Quotient
import Lookalike.Proofs.Exchange
import Lookalike.Proofs.SharedRun

/-!
# Copies inside larger files

A file that occurs as a run inside another one leaves all its fingerprints there: each is the
minimum of a window, and the same window further down in the other file has its minimum at the same
place. So the other file never has fewer fingerprints, all hashes of the copy are shared, and the
score does not depend on what surrounds the copy. A hash that several fingerprints have is shared
once and counted several times, which keeps the score below 1.

## Main definitions

* `Fingerprints.ShiftedInto` — a set of fingerprints that occurs in another one further down.

## Main statements

* `SharedRun.shiftedInto` — the fingerprints of a file that occurs in another one.
* `Overlap.commonHashes_of_shiftedInto` — all hashes of the copy are shared.
* `containment_score` — the score of a file and one that contains it.
-/

namespace Lookalike

variable {s t : Fingerprints} {c d : CommentSet} {b k w : Nat} {xs ys : List Token}

/-! ## Shifted fingerprints -/

/-- For every fingerprint of the first set there is one of the same hash in the second, `b` places
further down. -/
def Fingerprints.ShiftedInto (s t : Fingerprints) (b : Nat) : Prop :=
  ∀ g ∈ s.toList, ∃ g' ∈ t.toList, AtSamePlace 0 b g g'

namespace Fingerprints

@[simp] theorem nodup_positions (f : Fingerprints) : (f.toList.map KGram.position).Nodup :=
  f.pairwise_positions.imp fun h => h.ne

/-- The larger set never has fewer fingerprints, since different places stay different. -/
theorem ShiftedInto.size_le (h : s.ShiftedInto t b) : s.size ≤ t.size := by
  have hnodup : ((s.toList.map KGram.position).map (· + b)).Nodup :=
    s.nodup_positions.map (add_left_injective b)
  have hsub : (s.toList.map KGram.position).map (· + b) ⊆ t.toList.map KGram.position := by
    intro p hp
    simp only [List.map_map, List.mem_map, Function.comp_apply] at hp
    obtain ⟨g, hg, rfl⟩ := hp
    obtain ⟨g', hg', hgg⟩ := h g hg
    exact List.mem_map.2 ⟨g', hg', hgg.position.symm⟩
  simpa [size] using (hnodup.subperm hsub).length_le

/-- The distinct hashes of a set of fingerprints, counted. -/
theorem length_hashes (f : Fingerprints) :
    f.hashes.length = (f.toList.map KGram.hash).toFinset.card := by
  have hnodup : f.hashes.Nodup := (Ordered.ascending_ofList id _).imp fun h => h.ne
  rw [← List.toFinset_card_of_nodup hnodup]
  congr 1
  ext h
  simp

end Fingerprints

namespace Overlap

/-- If all hashes of a file are shared, the shared ones are its own. -/
theorem map_hash_shared (h : ∀ g ∈ s.toList, ∃ g' ∈ t.toList, g'.hash = g.hash) :
    (of s t c d).shared.map Bucket.hash = s.hashes := by
  have hsorted : ((of s t c d).shared.map Bucket.hash).Pairwise (· < ·) :=
    List.pairwise_map.2 pairwise_shared
  refine List.Pairwise.eq_of_mem_iff hsorted (Ordered.ascending_ofList id _) fun v => ?_
  simp only [List.mem_map, mem_shared, Fingerprints.mem_hashes]
  constructor
  · rintro ⟨_, ⟨v, hs, -, rfl⟩, rfl⟩
    exact hs
  · rintro ⟨g, hg, rfl⟩
    exact ⟨_, ⟨_, ⟨g, hg, rfl⟩, h g hg, rfl⟩, rfl⟩

/-- Where one side's fingerprints all recur in the other, every distinct hash is common. -/
theorem commonHashes_of_shiftedInto (h : s.ShiftedInto t b) :
    (of s t c d).commonHashes = (s.toList.map KGram.hash).toFinset.card := by
  have hshared : ∀ g ∈ s.toList, ∃ g' ∈ t.toList, g'.hash = g.hash := by
    intro g hg
    obtain ⟨g', hg', hgg⟩ := h g hg
    exact ⟨g', hg', hgg.hash.symm⟩
  rw [← Fingerprints.length_hashes, ← map_hash_shared hshared, List.length_map]
  rfl

end Overlap

/-! ## Copies -/

/-- A file whose token values occur together in another one runs along it from some place on. -/
theorem exists_sharedRun_of_infix (h : xs.map Token.value <:+: ys.map Token.value) :
    ∃ b, SharedRun xs ys 0 b xs.length := by
  obtain ⟨before, after, heq⟩ := h
  have hlen := congrArg List.length heq
  simp only [List.length_append, List.length_map] at hlen
  refine ⟨before.length, by omega, by omega, ?_⟩
  rw [← heq, List.drop_zero, List.append_assoc, List.drop_left, ← List.length_map Token.value,
    List.take_length, List.take_left]

theorem sharedRun_of_values_eq (h : xs.map Token.value = ys.map Token.value) :
    SharedRun xs ys 0 0 xs.length := by
  have hlen : xs.length = ys.length := by simpa using congrArg List.length h
  exact ⟨by omega, by omega, by rw [h]⟩

namespace SharedRun

/-- The windows of a file that occurs in another one have their minima at the same places. -/
theorem shiftedInto (h : SharedRun xs ys 0 b xs.length) (hk : 0 < k) (hw : 0 < w)
    (hlen : k + w ≤ xs.length + 1) :
    (winnow (kgrams xs k) w).ShiftedInto (winnow (kgrams ys k) w) b := by
  intro g hg
  have hright := h.le_right
  have hxs : (kgrams xs k).length = xs.length + 1 - k := length_kgrams hk
  have hys : (kgrams ys k).length = ys.length + 1 - k := length_kgrams hk
  obtain ⟨i, hi, hmin⟩ := exists_window_of_mem_winnow hw (by omega) hg
  have hrel := rel_windowMinimum (faithful_atSamePlace 0 b)
    (h.forall₂_window (i := i) (w := w) hk (by omega))
  rw [Nat.zero_add, hmin] at hrel
  generalize hmin' : windowMinimum (((kgrams ys k).drop (b + i)).take w) = m at hrel
  obtain ⟨hgg⟩ := hrel
  exact ⟨_, mem_winnow_of_windowMinimum (kgrams_numbered ys k) hw (by omega) hmin', hgg⟩

/-- Files with the same values have the same fingerprints, however few k-grams there are. -/
theorem shiftedInto_of_length_eq (h : SharedRun xs ys 0 0 xs.length)
    (hlen : xs.length = ys.length) (hk : 0 < k) (hle : k ≤ xs.length) (w : Nat) :
    (winnow (kgrams xs k) w).ShiftedInto (winnow (kgrams ys k) w) 0 := by
  have hxs : (kgrams xs k).length = xs.length + 1 - k := length_kgrams hk
  have hys : (kgrams ys k).length = ys.length + 1 - k := length_kgrams hk
  have hall := h.forall₂_window (i := 0) (w := xs.length + 1 - k) hk (by omega)
  rw [Nat.add_zero, List.drop_zero, List.drop_zero, List.take_of_length_le hxs.le,
    List.take_of_length_le (by omega)] at hall
  intro g hg
  obtain ⟨i, hi, hget⟩ := List.mem_iff_getElem.1 hg
  have hrel := forall₂_winnow (faithful_atSamePlace 0 0) hall w
  have hi' : i < (winnow (kgrams ys k) w).toList.length := hrel.length_eq ▸ hi
  exact ⟨_, List.getElem_mem hi', hget ▸ hrel.get hi hi'⟩

end SharedRun

/-- The fingerprints of a file occur in one that contains a copy of it. The copy is long enough for
a window, or all there is. -/
theorem exists_shiftedInto (hk : 0 < k) (hw : 0 < w)
    (h : k + w - 1 ≤ xs.length ∧ xs.map Token.value <:+: ys.map Token.value ∨
      k ≤ xs.length ∧ xs.map Token.value = ys.map Token.value) :
    ∃ b, (winnow (kgrams xs k) w).ShiftedInto (winnow (kgrams ys k) w) b := by
  rcases h with ⟨hlong, hinfix⟩ | ⟨hle, hvalues⟩
  · obtain ⟨b, hrun⟩ := exists_sharedRun_of_infix hinfix
    exact ⟨b, hrun.shiftedInto hk hw (by omega)⟩
  · have hlen : xs.length = ys.length := by simpa using congrArg List.length hvalues
    exact ⟨0, (sharedRun_of_values_eq hvalues).shiftedInto_of_length_eq hlen hk hle w⟩

/-- The score of a file and one that contains a copy of it, whichever comes first: the different
hashes of the copy as a part of its fingerprints, with the common comments counted on either side.
As a fraction it is 1 exactly if the fingerprints of the copy have different hashes, and as a number
too if the counts are numbers without rounding. -/
theorem containment_score {x y : Lexed} {options : Options} (hk : 1 ≤ options.k)
    (hw : 1 ≤ options.w)
    (h : options.k + options.w - 1 ≤ x.tokens.length ∧
        x.tokens.map Token.value <:+: y.tokens.map Token.value ∨
      options.k ≤ x.tokens.length ∧ x.tokens.map Token.value = y.tokens.map Token.value) :
    let first := Index.ofLexed options x
    let second := Index.ofLexed options y
    let hashes := first.fingerprints.toList.map KGram.hash
    let size := first.fingerprints.size
    let common := x.comments.countCommon y.comments
    0 < size ∧ ∀ o ∈ [first.overlap second, second.overlap first],
      o.commonHashes = hashes.toFinset.card ∧ o.smaller = size ∧ o.commonComments = common ∧
      o.score = Float.ofNat (hashes.toFinset.card + common) / Float.ofNat (size + common) ∧
      (hashes.toFinset.card + common = size + common ↔ hashes.Nodup) ∧
      (size + common < 2 ^ 53 → (o.score = 1 ↔ hashes.Nodup)) := by
  intro first second hashes size common
  have hlen : options.k ≤ x.tokens.length := by omega
  obtain ⟨b, hshift⟩ : ∃ b, first.fingerprints.ShiftedInto second.fingerprints b :=
    exists_shiftedInto hk hw h
  obtain ⟨g, hg, -⟩ := exists_mem_winnow_near (kgrams_numbered x.tokens options.k) hw
    (q := 0) (by rw [length_kgrams hk]; omega)
  have hpos : 0 < hashes.toFinset.card := by
    refine Finset.card_pos.2 ⟨g.hash, ?_⟩
    exact List.mem_toFinset.2 (List.mem_map_of_mem hg)
  have hsize : hashes.length = size := List.length_map _
  have hle : hashes.toFinset.card ≤ size := hsize ▸ List.toFinset_card_le hashes
  have hnodup : hashes.toFinset.card + common = size + common ↔ hashes.Nodup := by
    rw [Nat.add_right_cancel_iff, ← hsize]
    exact Multiset.toFinset_card_eq_card_iff_nodup
  refine ⟨hpos.trans_le hle, fun o ho => ?_⟩
  have hcounts : o.commonHashes = hashes.toFinset.card ∧ o.smaller = size ∧
      o.commonComments = common := by
    rcases List.mem_pair.1 ho with rfl | rfl
    · exact ⟨Overlap.commonHashes_of_shiftedInto hshift, min_eq_left hshift.size_le, rfl⟩
    · exact ⟨Overlap.commonHashes_swap.trans (Overlap.commonHashes_of_shiftedInto hshift),
        min_eq_right hshift.size_le, Overlap.commonComments_swap⟩
  obtain ⟨hcommon, hsmaller, hcomments⟩ := hcounts
  have hscore : o.score =
      Float.ofNat (hashes.toFinset.card + common) / Float.ofNat (size + common) := by
    rw [Overlap.score, Overlap.numerator, Overlap.denominator, hcommon, hsmaller, hcomments,
      if_neg (by omega)]
  refine ⟨hcommon, hsmaller, hcomments, hscore, hnodup, fun hlt => ?_⟩
  rw [hscore, ofNat_div_ofNat_eq_one_iff (by omega) (by omega) hlt, hnodup]

/-- Eight lines of names and numbers in turn, between other tokens. -/
def eightLinesInside : Lexed :=
  ⟨keywordArgument.tokens ++ (eightLines .identifier .number).tokens ++ oneLine.tokens, .ofList []⟩

/-- The copy has eight fingerprints of two hashes, so its score is a quarter. -/
theorem containment_score_eightLines :
    let copy := eightLines .identifier .number
    let first := Index.ofLexed ⟨1, 1, .crossProduct⟩ copy
    let second := Index.ofLexed ⟨1, 1, .crossProduct⟩ eightLinesInside
    1 ≤ copy.tokens.length ∧
      copy.tokens.map Token.value <:+: eightLinesInside.tokens.map Token.value ∧
      (first.overlap second).score = Float.ofNat 2 / Float.ofNat 8 ∧
      (second.overlap first).score = Float.ofNat 2 / Float.ofNat 8 ∧
      (first.overlap second).score ≠ 1 := by
  intro copy first second
  have hinfix : copy.tokens.map Token.value <:+: eightLinesInside.tokens.map Token.value :=
    ⟨keywordArgument.tokens.map Token.value, oneLine.tokens.map Token.value, by decide⟩
  have hcard : (first.fingerprints.toList.map KGram.hash).toFinset.card = 2 := by decide +kernel
  have hsize : first.fingerprints.size = 8 := by decide +kernel
  have hcommon : copy.comments.countCommon eightLinesInside.comments = 0 := by decide +kernel
  obtain ⟨-, hall⟩ := @containment_score copy eightLinesInside ⟨1, 1, .crossProduct⟩ le_rfl le_rfl
    (.inl ⟨by decide, hinfix⟩)
  obtain ⟨-, -, -, hscore, -, hone⟩ := hall _ List.mem_cons_self
  obtain ⟨-, -, -, hscore', -⟩ := hall _ (List.mem_cons_of_mem _ List.mem_cons_self)
  rw [hcard, hsize, hcommon] at hscore hscore'
  refine ⟨by decide, hinfix, hscore, hscore', fun h => ?_⟩
  have hnodup := (hone (by rw [hsize, hcommon]; decide)).1 h
  revert hnodup
  decide +kernel

end Lookalike
