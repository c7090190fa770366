import Lookalike.Proofs.Layout
import Lookalike.Proofs.Span.Within
import Mathlib.Data.Prod.Lex
import Mathlib.Order.WithBot

/-!
# Well-formed reports

The regions of a report are in good order: no span is empty or overlaps another one of its file,
spans and regions ascend, and every span runs from the start of a token to the stop of another,
with at least one whole k-gram in between. So regions can be listed by their first spans, and the
list does not depend on the order in which collisions are found.

## Main definitions

* `TokenRun` — a span over at least `k` tokens.
* `TokenSpans`, `WellFormed` — what holds of the spans of one side, and of the regions.

## Main statements

* `wellFormed_sort` — regions made of k-grams are well-formed once they are merged and sorted.
* `compareIndexed_wellFormed` — reports are well-formed.
-/

namespace Lookalike

variable {xs ys ts : List Token} {k l : Nat} {ss : List Span} {rs rs' : List Region}

/-! ## Spans over tokens -/

/-- Spans from the start of a token to the stop of one that is at least `k - 1` places later. -/
inductive TokenRun (ts : List Token) (k : Nat) : Span → Prop where
  | between {i j : Nat} (hi : i < ts.length) (hj : j < ts.length) (h : i + (k - 1) ≤ j) :
    TokenRun ts k ⟨ts[i].start, ts[j].stop⟩

/-- Spans over tokens in ascending order, of which no two overlap. -/
structure TokenSpans (ts : List Token) (k : Nat) (ss : List Span) : Prop where
  ne_nil : ss ≠ []
  ascending : ss.Pairwise fun s t => s < t ∧ ¬ s.Overlaps t
  tokenRun : ∀ s ∈ ss, TokenRun ts k s

@[grind →]
theorem tokenRun_of_mem_kgrams {g : KGram} (hg : g ∈ kgrams ts k) : TokenRun ts k g.span := by
  rcases Nat.eq_zero_or_pos k with rfl | hk
  · simp [kgrams] at hg
  obtain ⟨i, hi⟩ := List.mem_iff_getElem?.1 hg
  have hle := add_le_of_getElem?_kgrams hk hi
  rw [span_of_getElem?_kgrams hk hi (by omega) (by omega)]
  exact .between _ _ (by omega)

section InOrder

variable (h : InOrder ts)

include h

/-- A run of tokens in order is not empty. -/
@[grind →] theorem TokenRun.start_lt_stop {s : Span} (hs : TokenRun ts k s) : s.start < s.stop := by
  obtain ⟨hi, hj, hij⟩ := hs
  exact (h.start_lt_stop_iff hi hj).2 (by omega)

theorem TokenRun.cover {s t : Span} (hs : TokenRun ts k s) (ht : TokenRun ts k t) :
    TokenRun ts k (s.cover t) := by
  obtain ⟨hi, hj, hij⟩ := hs
  obtain ⟨hi', hj', hij'⟩ := ht
  rw [Span.cover, h.min_start hi hi' (by omega), h.max_stop hj hj' (by omega)]
  exact .between _ _ (by omega)

/-- Merged runs of tokens are runs of tokens. -/
theorem tokenRun_of_mem_mergeSpans (hss : ∀ s ∈ ss, TokenRun ts k s) :
    ∀ s ∈ mergeSpans ss, TokenRun ts k s :=
  Fuse.forall_mem (fun hs ht => hs.cover h ht) (mergeSpans_fuses ss) hss

theorem tokenSpans_mergeSpans (hne : ss ≠ []) (hss : ∀ s ∈ ss, TokenRun ts k s) :
    TokenSpans ts k (mergeSpans ss) where
  ne_nil := by
    obtain ⟨s, hs⟩ := List.exists_mem_of_ne_nil _ hne
    obtain ⟨o, ho, -⟩ := exists_mem_mergeSpans_within hs
    exact List.ne_nil_of_mem ho
  ascending := by
    refine (pairwise_mergeSpans ss).imp_of_mem fun {s t} hs _ hst => ⟨?_, hst.2⟩
    -- A span that is not empty would overlap itself.
    have hself : s.Overlaps s :=
      Span.overlaps_self.2 ((tokenRun_of_mem_mergeSpans h hss s hs).start_lt_stop h)
    refine lt_of_le_of_ne hst.1 fun heq => hst.2 ?_
    rwa [← heq]
  tokenRun := tokenRun_of_mem_mergeSpans h hss

end InOrder

/-! ## Regions -/

/-- Regions whose spans run over at least `k` tokens of the first file and `l` of the second, on
either side in ascending order and without overlap. No two of them overlap, and their first spans
in the first file ascend. -/
structure WellFormed (xs ys : List Token) (k l : Nat) (rs : List Region) : Prop where
  source : ∀ r ∈ rs, TokenSpans xs k r.source
  target : ∀ r ∈ rs, TokenSpans ys l r.target
  apart : rs.Pairwise fun a b => ¬ a.Overlaps b
  ordered : rs.Pairwise fun a b => ∀ s ∈ a.source.head?, ∀ t ∈ b.source.head?, s < t

/-- Spans over tokens on both sides, which need not be in any order. -/
structure Region.OverTokens (xs ys : List Token) (k l : Nat) (r : Region) : Prop where
  source_ne_nil : r.source ≠ []
  target_ne_nil : r.target ≠ []
  source : ∀ s ∈ r.source, TokenRun xs k s
  target : ∀ s ∈ r.target, TokenRun ys l s

section Regions

variable (hx : InOrder xs) (hy : InOrder ys) {a b r : Region}

include hx hy

@[grind ←] theorem Region.OverTokens.normalized (hr : r.OverTokens xs ys k l) :
    r.normalized.OverTokens xs ys k l where
  source_ne_nil := (tokenSpans_mergeSpans hx hr.source_ne_nil hr.source).ne_nil
  target_ne_nil := (tokenSpans_mergeSpans hy hr.target_ne_nil hr.target).ne_nil
  source := tokenRun_of_mem_mergeSpans hx hr.source
  target := tokenRun_of_mem_mergeSpans hy hr.target

@[grind ←]
theorem Region.OverTokens.join (ha : a.OverTokens xs ys k l) (hb : b.OverTokens xs ys k l) :
    (a.join b).OverTokens xs ys k l := by
  have hab : (⟨a.source ++ b.source, a.target ++ b.target⟩ : Region).OverTokens xs ys k l :=
    { source_ne_nil := List.append_ne_nil_of_left_ne_nil ha.source_ne_nil _
      target_ne_nil := List.append_ne_nil_of_left_ne_nil ha.target_ne_nil _
      source := List.forall_mem_append.2 ⟨ha.source, hb.source⟩
      target := List.forall_mem_append.2 ⟨ha.target, hb.target⟩ }
  exact hab.normalized hx hy

theorem tokenSpans_of_mem_mergeAll (hrs : ∀ r ∈ rs, r.OverTokens xs ys k l) :
    ∀ c ∈ mergeAll rs, TokenSpans xs k c.source ∧ TokenSpans ys l c.target := by
  intro c hc
  have hover : c.OverTokens xs ys k l := forall_mem_mergeAll (fun _ hr => hr.normalized hx hy)
    (fun _ _ ha hb => ha.join hx hy hb) hrs c hc
  rw [← normalized_of_mem_mergeAll hc]
  exact ⟨tokenSpans_mergeSpans hx hover.source_ne_nil hover.source,
    tokenSpans_mergeSpans hy hover.target_ne_nil hover.target⟩

end Regions

/-! ## Order -/

@[simp] theorem optionalAtMost_iff {α : Type} [LinearOrder α] {a b : Option α} :
    optionalAtMost a b ↔ LE.le (α := WithBot α) a b := by
  cases a with
  | none => exact iff_of_true rfl (bot_le (α := WithBot α))
  | some a =>
    cases b with
    | none => exact iff_of_false Bool.false_ne_true (WithBot.not_coe_le_bot a)
    | some b =>
      rw [optionalAtMost, decide_eq_true_iff]
      exact WithBot.coe_le_coe.symm

@[simp]
theorem ite_le_iff {α : Type} [PartialOrder α] {a b : α} {_ : Decidable (a = b)} {p : Prop} :
    (if a = b then p else a ≤ b) ↔ a < b ∨ a = b ∧ p := by
  split
  · next h =>
    exact ⟨fun hp => .inr ⟨h, hp⟩, fun hor => hor.elim (fun hlt => absurd h hlt.ne) And.right⟩
  · next h =>
    exact ⟨fun hle => .inl (lt_of_le_of_ne hle h),
      fun hor => hor.elim le_of_lt fun he => absurd he.1 h⟩

/-- The second values only decide where the first ones are the same. -/
theorem optionalAtMost_lex_iff {α β : Type} [LinearOrder α] [LinearOrder β] {a b : Option α}
    {c d : Option β} [Decidable (a = b)] :
    (if a = b then optionalAtMost c d else optionalAtMost a b) ↔
      LE.le (α := WithBot α ×ₗ WithBot β) (toLex (a, c)) (toLex (b, d)) := by
  rw [Prod.Lex.toLex_le_toLex, Bool.ite_eq_true_distrib, optionalAtMost_iff, optionalAtMost_iff]
  exact ite_le_iff (α := WithBot α)

namespace Region

def sortKey (r : Region) : WithBot Span ×ₗ WithBot Span := toLex (r.source.head?, r.target.head?)

/-- Starting by is the order of the sort keys, so it is total and transitive. -/
theorem startsBy_iff {a b : Region} : a.startsBy b ↔ a.sortKey ≤ b.sortKey := by
  rw [startsBy]
  exact optionalAtMost_lex_iff

@[simp] theorem pairwise_sort_startsBy (rs : List Region) :
    (rs.mergeSort startsBy).Pairwise fun a b => a.startsBy b := by
  apply List.pairwise_mergeSort
  · intro a b c hab hbc
    rw [startsBy_iff] at *
    exact hab.trans hbc
  · intro a b
    rw [Bool.or_eq_true, startsBy_iff, startsBy_iff]
    exact le_total _ _

end Region

section Sorted

variable (hx : InOrder xs) (hy : InOrder ys)

include hx in
/-- Of two clusters in order that do not overlap, the first one also starts strictly before the
other in the source. -/
theorem head?_lt_head? {a b : Region} (ha : TokenSpans xs k a.source) (hle : a.startsBy b)
    (hab : ¬ a.Overlaps b) : ∀ s ∈ a.source.head?, ∀ t ∈ b.source.head?, s < t := by
  intro s hs t ht
  have hmem : s ∈ a.source := List.mem_of_mem_head? hs
  have hne : s ≠ t := by
    rintro rfl
    apply hab
    exact .inl ⟨s, hmem, s, List.mem_of_mem_head? ht,
      Span.overlaps_self.2 ((ha.tokenRun s hmem).start_lt_stop hx)⟩
  rw [Option.mem_def] at hs ht
  rw [Region.startsBy, hs, ht, if_neg (by simpa using hne), optionalAtMost,
    decide_eq_true_iff] at hle
  exact lt_of_le_of_ne hle hne

include hx hy in
/-- Regions over tokens are well-formed once they are merged and sorted. -/
theorem wellFormed_sort (hrs : ∀ r ∈ rs, r.OverTokens xs ys k l) :
    WellFormed xs ys k l ((mergeAll rs).mergeSort Region.startsBy) := by
  have hspans : ∀ r ∈ (mergeAll rs).mergeSort Region.startsBy,
      TokenSpans xs k r.source ∧ TokenSpans ys l r.target := fun r hr =>
    tokenSpans_of_mem_mergeAll hx hy hrs r (List.mem_mergeSort.1 hr)
  have hapart : Apart ((mergeAll rs).mergeSort Region.startsBy) :=
    ((List.mergeSort_perm _ _).pairwise_iff fun h => mt Region.overlaps_comm.1 h).2
      (apart_mergeAll rs)
  have hsorted := (Region.pairwise_sort_startsBy (mergeAll rs)).and hapart
  refine ⟨fun r hr => (hspans r hr).1, fun r hr => (hspans r hr).2, hapart, ?_⟩
  exact hsorted.imp_of_mem fun ha _ hab => head?_lt_head? hx (hspans _ ha).1 hab.1 hab.2

/-- There is only one order in which regions are well-formed. -/
theorem WellFormed.eq_of_perm (h : WellFormed xs ys k l rs) (h' : WellFormed xs ys k l rs')
    (hp : rs.Perm rs') : rs = rs' := by
  refine hp.eq_of_pairwise (fun a b ha hb hab hba => ?_) h.ordered h'.ordered
  obtain ⟨s, ss, hs⟩ := List.exists_cons_of_ne_nil (h.source a ha).ne_nil
  obtain ⟨t, ts, ht⟩ := List.exists_cons_of_ne_nil (h'.source b hb).ne_nil
  have hst : s < t := hab s (by simp [hs]) t (by simp [ht])
  exact absurd (hba t (by simp [ht]) s (by simp [hs])) hst.asymm

end Sorted

/-! ## Reports -/

/-- Every aligned region consists of k-gram spans of the two files. -/
theorem overTokens_of_mem_alignedRegions {x y : Lexed} {ox oy options : Options} {o : Overlap}
    {r : Region} (hr : r ∈ alignedRegions (.ofLexed ox x) (.ofLexed oy y) o options) :
    r.OverTokens x.tokens y.tokens ox.k oy.k := by
  obtain ⟨⟨hs, hsource⟩, ht, htarget⟩ := exists_mem_kgrams_of_mem_alignedRegions hr
  refine ⟨hs, ht, fun s hs => ?_, fun s hs => ?_⟩
  · obtain ⟨g, hg, rfl⟩ := hsource s hs
    exact tokenRun_of_mem_kgrams hg
  · obtain ⟨g, hg, rfl⟩ := htarget s hs
    exact tokenRun_of_mem_kgrams hg

/-- The regions of two files in document order are well-formed, whatever the sizes of k-grams and
windows with which they were indexed and are compared, and they do not depend on the order in
which the collisions come. -/
theorem compareIndexed_wellFormed {x y : Lexed} (hx : InOrder x.tokens) (hy : InOrder y.tokens)
    (ox oy options : Options) (m n : Option String) :
    let first := Index.ofLexed ox x
    let second := Index.ofLexed oy y
    let regions := (compareIndexed first second m n options).regions
    WellFormed x.tokens y.tokens ox.k oy.k regions ∧
      ∀ rs, rs.Perm (alignedRegions first second (first.overlap second) options) →
        (mergeAll rs).mergeSort Region.startsBy = regions := by
  intro first second regions
  have hover : ∀ r ∈ alignedRegions first second (first.overlap second) options,
      r.OverTokens x.tokens y.tokens ox.k oy.k := fun r => overTokens_of_mem_alignedRegions
  have hregions : WellFormed x.tokens y.tokens ox.k oy.k regions := wellFormed_sort hx hy hover
  refine ⟨hregions, fun rs hrs => ?_⟩
  have hsorted := wellFormed_sort hx hy fun r hr => hover r (hrs.mem_iff.1 hr)
  have hperm := mergeAll_perm hrs
  exact hsorted.eq_of_perm hregions
    ((List.mergeSort_perm _ _).trans (hperm.trans (List.mergeSort_perm _ _).symm))

/-- One line and three lines with the same tokens. -/
theorem compareIndexed_wellFormed_threeLines :
    let regions := (compareIndexed (.ofLexed ⟨1, 1, .crossProduct⟩ oneLine)
      (.ofLexed ⟨1, 1, .crossProduct⟩ threeLines) none none ⟨1, 0, .crossProduct⟩).regions
    InOrder oneLine.tokens ∧ InOrder threeLines.tokens ∧ regions.length = 3 ∧
      WellFormed oneLine.tokens threeLines.tokens 1 1 regions := by
  obtain ⟨hwell, -⟩ := compareIndexed_wellFormed oneLine_inOrder threeLines_inOrder
    ⟨1, 1, .crossProduct⟩ ⟨1, 1, .crossProduct⟩ ⟨1, 0, .crossProduct⟩ none none
  refine ⟨oneLine_inOrder, threeLines_inOrder, ?_, hwell⟩
  rw [compareIndexed, List.length_mergeSort]
  decide +kernel

end Lookalike
