import Lookalike.Proofs.Layout
import Lookalike.Proofs.Region.Components
import Lookalike.Proofs.Span.Within

/-!
# Full copies

A file with the same token values as another is the same file in another layout, so it is enough
to compare a file with itself. Every fingerprint then collides with itself and its neighborhood is
aligned with itself. Neighborhoods of neighboring fingerprints have a k-gram in common, so all
regions are parts of one, however many other collisions there are.

## Main definitions

* `extent?` — from the start of the first token to the stop of the last.

## Main statements

* `connected_selfRegions` — the regions of a file compared with itself are connected.
* `mergeSpans_kgrams` — the spans of all k-grams are merged to one.
* `fullCopy_one_region` — a full copy is reported as one region.
-/

namespace Lookalike

/-- The span from the start of the first token to the stop of the last. -/
def extent? (ts : List Token) : Option Span := do
  return ⟨(← ts.head?).start, (← ts.getLast?).stop⟩

theorem extent?_eq {ts : List Token} (h : 0 < ts.length) :
    extent? ts = some ⟨ts[0].start, ts[ts.length - 1].stop⟩ := by
  rw [extent?, List.head?_eq_getElem?, List.getLast?_eq_getElem?, List.getElem?_eq_getElem h,
    List.getElem?_eq_getElem (by omega)]
  rfl

/-! ## Spans of k-grams -/

section KGrams

variable {ts : List Token} {k q : Nat} {g : KGram} {ss : List Span}

theorem InOrder.kgram_start_lt_stop (h : InOrder ts) (hk : 0 < k) (hg : g ∈ kgrams ts k) :
    g.span.start < g.span.stop := by
  obtain ⟨q, hq⟩ := List.mem_iff_getElem?.1 hg
  have hle := add_le_of_getElem?_kgrams hk hq
  rw [span_of_getElem?_kgrams hk hq (by omega) (by omega)]
  exact (h.start_lt_stop_iff _ _).2 (by omega)

theorem InOrder.isChain_kgrams (h : InOrder ts) (hk : 2 ≤ k) :
    ((kgrams ts k).map KGram.span).IsChain Span.Overlaps := by
  have hpos : 0 < k := by omega
  refine List.isChain_iff_getElem.2 fun q hq => ?_
  simp only [List.length_map] at hq
  have hget (i : Nat) (hi : i < (kgrams ts k).length) := List.getElem?_eq_getElem hi
  have hle := add_le_of_getElem?_kgrams hpos (hget (q + 1) hq)
  have hspan := span_of_getElem?_kgrams hpos (hget q (by omega)) (by omega) (by omega)
  have hspan' := span_of_getElem?_kgrams hpos (hget (q + 1) hq) (by omega) (by omega)
  rw [List.getElem_map, List.getElem_map, hspan, hspan', Span.overlaps_iff_of_lt
    ((h.start_lt_stop_iff _ _).2 (by omega)) ((h.start_lt_stop_iff _ _).2 (by omega))]
  exact ⟨(h.start_lt_stop_iff _ _).2 (by omega), (h.start_lt_stop_iff _ _).2 (by omega)⟩

theorem exists_mem_mergeSpans_kgrams (h : InOrder ts) (hk : 2 ≤ k) (hle : k ≤ ts.length)
    (hall : ∀ g ∈ kgrams ts k, g.span ∈ ss) :
    ∃ o ∈ mergeSpans ss, ∀ g ∈ kgrams ts k, g.span.Within o := by
  have hpos : 0 < (kgrams ts k).length := by rw [length_kgrams (by omega)]; omega
  obtain ⟨o, ho, hw⟩ := @exists_mem_mergeSpans_forall_within ss _
    (by simpa using List.ne_nil_of_length_pos hpos)
    (List.forall_mem_map.2 fun g hg => ⟨hall g hg, h.kgram_start_lt_stop (by omega) hg⟩)
    (h.isChain_kgrams hk)
  exact ⟨o, ho, List.forall_mem_map.1 hw⟩

/-- The spans of all k-grams of at least two tokens are merged to one. -/
theorem mergeSpans_kgrams (h : InOrder ts) (hk : 2 ≤ k) (hle : k ≤ ts.length)
    (hss : ∀ s ∈ ss, ∃ g ∈ kgrams ts k, g.span = s) (hall : ∀ g ∈ kgrams ts k, g.span ∈ ss) :
    ∃ s, extent? ts = some s ∧ mergeSpans ss = [s] := by
  obtain ⟨o, ho, hw⟩ := exists_mem_mergeSpans_kgrams h hk hle hall
  have hsingle : mergeSpans ss = [o] := mergeSpans_eq_singleton ho fun s hs => by
    obtain ⟨g, hg, rfl⟩ := hss s hs
    exact ⟨h.kgram_start_lt_stop (by omega) hg, hw g hg⟩
  have hwithin (q : Nat) (hq : q + k ≤ ts.length) :
      o.start ≤ ts[q].start ∧ ts[q + k - 1].stop ≤ o.stop :=
    hw _ (List.mem_of_getElem? (getElem?_kgrams (by omega) hq))
  have hspan (s : Span) (hs : s ∈ ss) :
      ts[0].start ≤ s.start ∧ s.stop ≤ ts[ts.length - 1].stop := by
    obtain ⟨g, hg, rfl⟩ := hss s hs
    obtain ⟨q, hq⟩ := List.mem_iff_getElem?.1 hg
    have hqk := add_le_of_getElem?_kgrams (by omega) hq
    rw [span_of_getElem?_kgrams (by omega) hq (by omega) (by omega)]
    exact ⟨(h.start_le_start_iff _ _).2 (by omega), (h.stop_le_stop_iff _ _).2 (by omega)⟩
  -- The merged span starts and stops where some k-grams do, and holds the first and the last one.
  obtain ⟨⟨s, hs, hstart⟩, t, ht, hstop⟩ := exists_bounds_of_mem_mergeSpans o ho
  refine ⟨o, ?_, hsingle⟩
  rw [extent?_eq (by omega)]
  refine congrArg some (Span.ext ?_ ?_)
  · exact le_antisymm (hstart ▸ (hspan s hs).1) (hwithin 0 (by omega)).1
  · have hlast := (hwithin (ts.length - k) (by omega)).2
    simp only [show ts.length - k + k - 1 = ts.length - 1 by omega] at hlast
    exact le_antisymm hlast (hstop ▸ (hspan t ht).2)

/-- The spans of regions that hold all k-grams, on one side of them, are merged to one. -/
theorem mergeSpans_flatMap {rs : List Region} {side : Region → List Span} (h : InOrder ts)
    (hk : 2 ≤ k) (hle : k ≤ ts.length)
    (hside : ∀ r ∈ rs, ∀ s ∈ side r, ∃ g ∈ kgrams ts k, g.span = s)
    (hall : ∀ g ∈ kgrams ts k, ∃ r ∈ rs, g.span ∈ side r) :
    ∃ s, extent? ts = some s ∧ mergeSpans (rs.flatMap side) = [s] := by
  refine mergeSpans_kgrams h hk hle (fun s hs => ?_) fun g hg => List.mem_flatMap.2 (hall g hg)
  obtain ⟨r, hr, hs⟩ := List.mem_flatMap.1 hs
  exact hside r hr s hs

end KGrams

/-! ## Regions of a file compared with itself -/

/-- The regions of a file, compared with itself but for the comments, before they are merged. -/
def selfRegions (x : Index) (c : CommentSet) (options : Options) : List Region :=
  alignedRegions x { x with comments := c } (x.overlap { x with comments := c }) options

/-- The region has the span of the k-gram at the position on its first side. -/
def Touches (gs : List KGram) (r : Region) (q : Nat) : Prop :=
  ∃ g, gs[q]? = some g ∧ g.span ∈ r.source

section Self

variable {x : Index} {c : CommentSet} {options : Options} {g : KGram} {r : Region}

def diagonal (x : Index) (g : KGram) (w : Nat) : Region :=
  ⟨(neighborhood x.kgrams g.position w).map (·.span),
    (neighborhood x.kgrams g.position w).map (·.span)⟩

theorem diagonal_mem_selfRegions (hx : x.Sound) (hp : options.pairing = .crossProduct)
    (hg : g ∈ x.fingerprints.toList) : diagonal x g options.w ∈ selfRegions x c options := by
  have hy : ({ x with comments := c } : Index).Sound := ⟨hx.numbered, hx.mem_kgrams⟩
  have hc : ⟨g, g⟩ ∈ (x.overlap { x with comments := c }).collisions options.pairing :=
    hp ▸ Overlap.self_mem_collisions hg
  have h := exists_mem_alignedRegions hx hy hc
  have hzip : (alignAround ⟨g, g⟩ x.kgrams x.kgrams options.w).pairs =
      (neighborhood x.kgrams g.position options.w).zip
        (neighborhood x.kgrams g.position options.w) := longestCommon_of_map_hash_eq rfl
  rwa [Alignment.source, Alignment.target, hzip, List.map_fst_zip le_rfl,
    List.map_snd_zip le_rfl] at h

end Self

section Connected

variable {lexed : Lexed} {options : Options} (c : CommentSet) (h : InOrder lexed.tokens)
  (hk : 0 < options.k) (hw : 0 < options.w) (hp : options.pairing = .crossProduct)

include hw hp in
/-- Every k-gram, with the next one, lies in the neighborhood of a fingerprint. -/
theorem exists_diagonal {q : Nat} (hq : q < (kgrams lexed.tokens options.k).length) :
    ∃ r ∈ selfRegions (.ofLexed options lexed) c options,
      ∀ g ∈ kgrams lexed.tokens options.k, q ≤ g.position → g.position ≤ q + 1 →
        g.span ∈ r.source ∧ g.span ∈ r.target := by
  have hnum := kgrams_numbered lexed.tokens options.k
  obtain ⟨f, hf, hlt, hlt'⟩ := exists_mem_winnow_near hnum hw hq
  refine ⟨_, diagonal_mem_selfRegions (Index.sound_ofLexed options lexed) hp hf,
    fun g hg hle hle' => ?_⟩
  have hmem : g ∈ neighborhood (kgrams lexed.tokens options.k) f.position options.w :=
    hnum.mem_neighborhood hg (by omega) (by omega)
  exact ⟨List.mem_map_of_mem hmem, List.mem_map_of_mem hmem⟩

include h hk hw hp in
/-- The regions of a file compared with itself are connected. -/
theorem connected_selfRegions (i j) :
    Connected (selfRegions (.ofLexed options lexed) c options) i j := by
  have hnum := kgrams_numbered lexed.tokens options.k
  refine @connected_of_touches _ (Touches (kgrams lexed.tokens options.k))
    (kgrams lexed.tokens options.k).length (fun r hr => ?_) (fun {a b q} ha hb => ?_)
    (fun q hq => ?_) i j
  · obtain ⟨⟨hne, hs⟩, -⟩ := exists_mem_kgrams_of_mem_alignedRegions hr
    obtain ⟨s, hsr⟩ := List.exists_mem_of_ne_nil _ hne
    obtain ⟨g, hg, rfl⟩ := hs s hsr
    exact ⟨g.position, hnum.position_lt hg, g, hnum.getElem?_position hg, hsr⟩
  · obtain ⟨g, hg, hga⟩ := ha
    obtain ⟨g', hg', hgb⟩ := hb
    obtain rfl := Option.some.inj (hg.symm.trans hg')
    have hself : g.span.Overlaps g.span :=
      Span.overlaps_self.2 (h.kgram_start_lt_stop hk (List.mem_of_getElem? hg))
    exact .inl ⟨g.span, hga, g.span, hgb, hself⟩
  · obtain ⟨r, hr, hcover⟩ := exists_diagonal c hw hp (Nat.lt_of_succ_lt hq)
    have htouch (p : Nat) (hpq : q ≤ p) (hpq' : p ≤ q + 1) :
        Touches (kgrams lexed.tokens options.k) r p := by
      have hlt : p < (kgrams lexed.tokens options.k).length := by omega
      have hget := List.getElem?_eq_getElem hlt
      have hposition := hnum.position hget
      exact ⟨_, hget, (hcover _ (List.mem_of_getElem? hget) (by omega) (by omega)).1⟩
    exact ⟨r, hr, htouch q (by omega) (by omega), htouch (q + 1) (by omega) (by omega)⟩

include h hk hw hp in
/-- A file compared with itself has one region, which covers the whole file if k-grams have at least
two tokens. -/
theorem mergeAll_selfRegions (hle : options.k ≤ lexed.tokens.length) :
    ∃ r, mergeAll (selfRegions (.ofLexed options lexed) c options) = [r] ∧
      (2 ≤ options.k → ∃ s, extent? lexed.tokens = some s ∧ r = ⟨[s], [s]⟩) := by
  have hpos : 0 < (kgrams lexed.tokens options.k).length := by rw [length_kgrams hk]; omega
  obtain ⟨r₀, hr₀, -⟩ := exists_diagonal c hw hp hpos
  refine ⟨_, mergeAll_of_connected (List.ne_nil_of_mem hr₀)
    (connected_selfRegions c h hk hw hp), fun hk' => ?_⟩
  have hnum := kgrams_numbered lexed.tokens options.k
  obtain ⟨s, hs, hmerge⟩ := @mergeSpans_flatMap _ _ _ Region.source h hk' hle
    (fun r hr => (exists_mem_kgrams_of_mem_alignedRegions hr).1.2) fun g hg => by
      obtain ⟨r, hr, hcover⟩ := exists_diagonal c hw hp (hnum.position_lt hg)
      exact ⟨r, hr, (hcover g hg le_rfl (by omega)).1⟩
  obtain ⟨t, ht, hmerge'⟩ := @mergeSpans_flatMap _ _ _ Region.target h hk' hle
    (fun r hr => (exists_mem_kgrams_of_mem_alignedRegions hr).2.2) fun g hg => by
      obtain ⟨r, hr, hcover⟩ := exists_diagonal c hw hp (hnum.position_lt hg)
      exact ⟨r, hr, (hcover g hg le_rfl (by omega)).2⟩
  obtain rfl := Option.some.inj (hs.symm.trans ht)
  exact ⟨s, hs, congrArg₂ Region.mk hmerge hmerge'⟩

end Connected

/-! ## Copies -/

theorem exists_relaid_extent {xs ys : List Token} (hpos : 0 < xs.length)
    (hlen : xs.length = ys.length) :
    ∃ s t, extent? xs = some s ∧ extent? ys = some t ∧ Relaid xs ys s t := by
  refine ⟨_, _, extent?_eq hpos, extent?_eq (hlen ▸ hpos), ?_⟩
  simp only [← hlen]
  exact .between hpos (by omega) (by omega) (by omega)

/-- A full copy is reported as one region. If k-grams have at least two tokens, it goes from the
start of the first token to the stop of the last one in both files. -/
theorem fullCopy_one_region {x y : Lexed} {options : Options} (hx : InOrder x.tokens)
    (hy : InOrder y.tokens) (hv : x.tokens.map Token.value = y.tokens.map Token.value)
    (hk : 1 ≤ options.k) (hle : options.k ≤ x.tokens.length) (hw : 1 ≤ options.w)
    (hp : options.pairing = .crossProduct) (m n : Option String) :
    let regions :=
      (compareIndexed (.ofLexed options x) (.ofLexed options y) m n options).regions
    regions.length = 1 ∧ (2 ≤ options.k → ∃ s t, extent? x.tokens = some s ∧
      extent? y.tokens = some t ∧ regions = [⟨[s], [t]⟩]) := by
  intro regions
  have hlen : x.tokens.length = y.tokens.length := by simpa using congrArg List.length hv
  obtain ⟨r, hr, hwhole⟩ := mergeAll_selfRegions y.comments hx hk hw hp hle
  -- The second file is the first one in another layout, with its own comments.
  have halike : Index.Alike (Relaid x.tokens y.tokens)
      (.ofLexed options { x with comments := y.comments }) (.ofLexed options y) :=
    @alike_of_values_eq { x with comments := y.comments } y hv rfl options
  have hregions := (compareIndexed_alike .eq (relaid_faithful hx hy)
    (Index.ofLexed options x).alike_self halike m n options).2
  have hself : (compareIndexed (.ofLexed options x)
      (.ofLexed options { x with comments := y.comments }) m n options).regions = [r] := by
    change (mergeAll (selfRegions (.ofLexed options x) y.comments options)).mergeSort
      Region.startsBy = [r]
    rw [hr, List.mergeSort_singleton]
  rw [hself] at hregions
  change List.Forall₂ _ [r] regions at hregions
  generalize regions = rs at hregions
  cases hregions with | cons hab hnil =>
  cases hnil
  refine ⟨rfl, fun hk' => ?_⟩
  obtain ⟨s, hs, rfl⟩ := hwhole hk'
  obtain ⟨s', t, hs', ht, hst⟩ := exists_relaid_extent (by omega) hlen
  obtain rfl := Option.some.inj (hs.symm.trans hs')
  have hsource := hab.source
  have htarget := map_move hx hab.target
  rw [List.forall₂_eq_eq_eq] at hsource
  rw [List.map_singleton, ← hst.eq_move hx] at htarget
  exact ⟨s, t, hs, ht, congrArg ([·]) (congrArg₂ Region.mk hsource.symm htarget)⟩

theorem fullCopy_threeLines :
    (compareIndexed (.ofLexed ⟨2, 1, .crossProduct⟩ oneLine)
      (.ofLexed ⟨2, 1, .crossProduct⟩ threeLines) none none ⟨2, 1, .crossProduct⟩).regions =
        [⟨[⟨⟨1, 1⟩, ⟨1, 6⟩⟩], [⟨⟨1, 1⟩, ⟨4, 5⟩⟩]⟩] := by
  obtain ⟨-, h⟩ := @fullCopy_one_region oneLine threeLines ⟨2, 1, .crossProduct⟩ oneLine_inOrder
    threeLines_inOrder (by decide) (by decide) (by decide) (by decide) rfl none none
  obtain ⟨s, t, hs, ht, hr⟩ := h le_rfl
  obtain rfl := Option.some.inj hs
  obtain rfl := Option.some.inj ht
  exact hr

end Lookalike
