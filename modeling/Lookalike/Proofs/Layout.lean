import Lookalike.Proofs.Comparison

/-!
# Layout

Two files with the same token values may be laid out differently and use other names. All that a
comparison looks at are positions of tokens, and those of two files in document order compare in
the same way. So the reports on the two files differ only in what positions the tokens have.

## Main definitions

* `InOrder` — tokens in document order.
* `Relaid` — spans between the same tokens of two files.
* `Span.move` — a span of one file, moved to the tokens of another.

## Main statements

* `InOrder.relaid_faithful` — the spans between tokens compare in the same way.
* `compareIndexed_relayout` — the reports on files that differ in their layout.
-/

namespace Lookalike

/-- Tokens in document order: each starts before it stops, and stops no later than the next one
starts. -/
structure InOrder (ts : List Token) : Prop where
  start_lt_stop : ∀ t ∈ ts, t.start < t.stop
  stop_le_start : ts.IsChain fun s t => s.stop ≤ t.start

namespace InOrder

variable {ts : List Token} {i j : Nat}

@[grind →] theorem stop_le_start_of_lt (h : InOrder ts) (hij : i < j) (hj : j < ts.length) :
    ts[i].stop ≤ ts[j].start := by
  induction j, hij using Nat.le_induction with
  | base => exact List.isChain_iff_getElem.1 h.stop_le_start i hj
  | succ j hij ih =>
    exact (ih (by omega)).trans ((h.start_lt_stop _ (List.getElem_mem _)).le.trans
      (List.isChain_iff_getElem.1 h.stop_le_start j hj))

/-- Tokens in order begin one after the other, so a start tells its token. -/
theorem strictMono_start (h : InOrder ts) : StrictMono fun i : Fin ts.length => ts[i].start :=
  fun i j hij =>
    (h.start_lt_stop _ (List.getElem_mem i.2)).trans_le (h.stop_le_start_of_lt hij j.2)

theorem strictMono_stop (h : InOrder ts) : StrictMono fun i : Fin ts.length => ts[i].stop :=
  fun _ j hij => (h.stop_le_start_of_lt hij j.2).trans_lt (h.start_lt_stop _ (List.getElem_mem j.2))

section Order

variable (h : InOrder ts) (hi : i < ts.length) (hj : j < ts.length)

include h

@[simp, grind =] theorem start_lt_start_iff : ts[i].start < ts[j].start ↔ i < j :=
  h.strictMono_start.lt_iff_lt (a := ⟨i, hi⟩) (b := ⟨j, hj⟩)

@[simp, grind =] theorem start_le_start_iff : ts[i].start ≤ ts[j].start ↔ i ≤ j :=
  h.strictMono_start.le_iff_le (a := ⟨i, hi⟩) (b := ⟨j, hj⟩)

@[simp, grind =] theorem start_eq_start_iff : ts[i].start = ts[j].start ↔ i = j := by
  rw [le_antisymm_iff, h.start_le_start_iff hi hj, h.start_le_start_iff hj hi, le_antisymm_iff]

@[simp, grind =] theorem stop_le_stop_iff : ts[i].stop ≤ ts[j].stop ↔ i ≤ j :=
  h.strictMono_stop.le_iff_le (a := ⟨i, hi⟩) (b := ⟨j, hj⟩)

@[simp, grind =] theorem stop_eq_stop_iff : ts[i].stop = ts[j].stop ↔ i = j := by
  rw [le_antisymm_iff, h.stop_le_stop_iff hi hj, h.stop_le_stop_iff hj hi, le_antisymm_iff]

/-- A token begins before another one ends exactly when it is that token or stands before it. -/
@[simp, grind =] theorem start_lt_stop_iff : ts[i].start < ts[j].stop ↔ i ≤ j := by
  constructor
  · intro hs
    by_contra hn
    exact hs.not_ge (h.stop_le_start_of_lt (not_le.1 hn) hi)
  · intro hij
    exact (h.start_lt_stop _ (List.getElem_mem hi)).trans_le ((h.stop_le_stop_iff hi hj).2 hij)

theorem min_start (hm : min i j < ts.length) :
    min ts[i].start ts[j].start = ts[min i j].start := by
  rcases le_total i j with hij | hij
  · simp only [min_eq_left hij, min_eq_left ((h.start_le_start_iff hi hj).2 hij)]
  · simp only [min_eq_right hij, min_eq_right ((h.start_le_start_iff hj hi).2 hij)]

theorem max_stop (hm : max i j < ts.length) :
    max ts[i].stop ts[j].stop = ts[max i j].stop := by
  rcases le_total i j with hij | hij
  · simp only [max_eq_right hij, max_eq_right ((h.stop_le_stop_iff hi hj).2 hij)]
  · simp only [max_eq_left hij, max_eq_left ((h.stop_le_stop_iff hj hi).2 hij)]

end Order

end InOrder

/-! ## Spans between tokens -/

/-- Spans from the start of one token to the stop of another, of the same tokens of two files. -/
inductive Relaid (xs ys : List Token) : Span → Span → Prop where
  | between {i j : Nat} (hi : i < xs.length) (hj : j < xs.length) (hi' : i < ys.length)
    (hj' : j < ys.length) : Relaid xs ys ⟨xs[i].start, xs[j].stop⟩ ⟨ys[i].start, ys[j].stop⟩

section Relaid

variable {xs ys : List Token} (hx : InOrder xs) (hy : InOrder ys) {i j k : Nat}

include hx hy

/-- Spans between the tokens of files in document order compare like the tokens. -/
theorem relaid_faithful : Span.Faithful (Relaid xs ys) := by
  have hle {a b c d : Span} (hab : Relaid xs ys a b) (hcd : Relaid xs ys c d) :
      a ≤ c ↔ b ≤ d := by
    obtain ⟨hi, hj, hi', hj'⟩ := hab
    obtain ⟨hk, hl, hk', hl'⟩ := hcd
    simp only [Span.le_def, hx.start_lt_start_iff, hx.start_eq_start_iff, hx.stop_le_stop_iff,
      hy.start_lt_start_iff, hy.start_eq_start_iff, hy.stop_le_stop_iff]
  refine ⟨hle, fun hab hcd => ?_, fun hab hcd => ?_⟩
  · simp only [Span.Overlaps, hle hab hcd]
    obtain ⟨hi, hj, hi', hj'⟩ := hab
    obtain ⟨hk, hl, hk', hl'⟩ := hcd
    simp only [hx.start_lt_stop_iff, hy.start_lt_stop_iff]
  · obtain ⟨hi, hj, hi', hj'⟩ := hab
    obtain ⟨hk, hl, hk', hl'⟩ := hcd
    rw [Span.cover, Span.cover, hx.min_start hi hk (by omega), hy.min_start hi' hk' (by omega),
      hx.max_stop hj hl (by omega), hy.max_stop hj' hl' (by omega)]
    exact .between (by omega) (by omega) (by omega) (by omega)

end Relaid

/-- Files with the same token values have the same k-grams, each over the same tokens. -/
theorem forall₂_kgrams {xs ys : List Token} (hv : xs.map Token.value = ys.map Token.value)
    (k : Nat) : List.Forall₂ (KGram.Alike (Relaid xs ys)) (kgrams xs k) (kgrams ys k) := by
  have hlen : xs.length = ys.length := by simpa using congrArg List.length hv
  rcases Nat.eq_zero_or_pos k with rfl | hk
  · simp [kgrams]
  refine List.forall₂_iff_get.2 ⟨by rw [length_kgrams hk, length_kgrams hk, hlen],
    fun i hi _ => ?_⟩
  rw [length_kgrams hk] at hi
  have hx := @getElem?_kgrams xs k i hk (by omega)
  have hy := @getElem?_kgrams ys k i hk (by omega)
  obtain ⟨_, hx⟩ := List.getElem?_eq_some_iff.1 hx
  obtain ⟨_, hy⟩ := List.getElem?_eq_some_iff.1 hy
  simp only [List.get_eq_getElem, hx, hy, hv]
  exact ⟨rfl, rfl, .between (by omega) (by omega) (by omega) (by omega)⟩

theorem alike_of_values_eq {x y : Lexed} (hv : x.tokens.map Token.value = y.tokens.map Token.value)
    (hc : x.comments = y.comments) (options : Options) :
    Index.Alike (Relaid x.tokens y.tokens) (.ofLexed options x) (.ofLexed options y) :=
  Index.alike_ofLexed (forall₂_kgrams hv options.k) hc

/-! ## Moving spans -/

/-- The bound of a token of the second list, in place of that of the same token of the first. -/
def moveBound (bound : Token → Position) (xs ys : List Token) (p : Position) : Position :=
  match xs.findIdx? (bound · = p) with
  | some i => (ys[i]?).elim p bound
  | none => p

/-- The span with the start and the stop of the same tokens of the second list. -/
def Span.move (xs ys : List Token) (s : Span) : Span :=
  ⟨moveBound Token.start xs ys s.start, moveBound Token.stop xs ys s.stop⟩

/-- Moving the bound of a token in one file gives the bound of the same token in the other. -/
theorem moveBound_getElem {bound : Token → Position} {xs ys : List Token} {i : Nat}
    (hinj : ∀ j (hj : j < xs.length) (hi : i < xs.length), bound xs[j] = bound xs[i] → j = i)
    (hi : i < xs.length) (hi' : i < ys.length) :
    moveBound bound xs ys (bound xs[i]) = bound ys[i] := by
  have hfind : xs.findIdx? (bound · = bound xs[i]) = some i := by
    refine List.findIdx?_eq_some_iff_getElem.2 ⟨hi, by simp, fun j hj => ?_⟩
    exact fun h => hj.ne (hinj j (hj.trans hi) hi (of_decide_eq_true h))
  rw [moveBound, hfind]
  simp [hi']

/-- The span of the same tokens in the other file is the moved span. -/
theorem Relaid.eq_move {xs ys : List Token} (hx : InOrder xs) {s t : Span}
    (h : Relaid xs ys s t) : t = s.move xs ys := by
  obtain ⟨hi, hj, hi', hj'⟩ := h
  rw [Span.move, moveBound_getElem (fun j hj hi => (hx.start_eq_start_iff hj hi).1) hi hi',
    moveBound_getElem (fun j hj hi => (hx.stop_eq_stop_iff hj hi).1) hj hj']

theorem eq_map_of_forall₂ {α β : Type} {f : α → β} {xs : List α} {ys : List β}
    (h : List.Forall₂ (fun x y => y = f x) xs ys) : ys = xs.map f := by
  induction h with
  | nil => rfl
  | cons hxy _ ih => rw [hxy, ih, List.map_cons]

theorem map_move {xs ys : List Token} (hx : InOrder xs) {ss ts : List Span}
    (h : List.Forall₂ (Relaid xs ys) ss ts) : ts = ss.map (Span.move xs ys) :=
  eq_map_of_forall₂ (h.imp fun _ _ h => h.eq_move hx)

/-- Renaming and another layout cannot be seen by a comparison with any indexed file `z`, on either
side: the score stays the same, and the regions are the same ones in the same order, with the
positions of the tokens moved. -/
theorem compareIndexed_relayout {x x' : Lexed} (hx : InOrder x.tokens) (hx' : InOrder x'.tokens)
    (hv : x.tokens.map Token.value = x'.tokens.map Token.value) (hc : x.comments = x'.comments)
    (z : Index) (options options' : Options) (m n : Option String) :
    let move := List.map (Span.move x.tokens x'.tokens)
    let left (x : Lexed) := compareIndexed (.ofLexed options x) z m n options'
    let right (x : Lexed) := compareIndexed z (.ofLexed options x) m n options'
    (left x').score = (left x).score ∧
      (left x').regions = (left x).regions.map (fun r => ⟨move r.source, r.target⟩) ∧
      (right x').score = (right x).score ∧
      (right x').regions = (right x).regions.map fun r => ⟨r.source, move r.target⟩ := by
  intro move left right
  have hS := relaid_faithful hx hx'
  have halike := alike_of_values_eq hv hc options
  obtain ⟨hscore, hregions⟩ := compareIndexed_alike hS .eq halike z.alike_self m n options'
  obtain ⟨hscore', hregions'⟩ := compareIndexed_alike .eq hS z.alike_self halike m n options'
  refine ⟨hscore.symm, eq_map_of_forall₂ (hregions.imp ?_), hscore'.symm,
    eq_map_of_forall₂ (hregions'.imp ?_)⟩
  · rintro ⟨s, t⟩ ⟨s', t'⟩ ⟨hs, ht⟩
    rw [List.forall₂_eq_eq_eq] at ht
    exact congrArg₂ Region.mk (map_move hx hs) ht.symm
  · rintro ⟨s, t⟩ ⟨s', t'⟩ ⟨hs, ht⟩
    rw [List.forall₂_eq_eq_eq] at hs
    exact congrArg₂ Region.mk hs.symm (map_move hx ht)

def oneLine : Lexed :=
  ⟨[⟨⟨1, 1⟩, ⟨1, 2⟩, .identifier⟩, ⟨⟨1, 3⟩, ⟨1, 4⟩, .punctuation "="⟩, ⟨⟨1, 5⟩, ⟨1, 6⟩, .number⟩],
    .ofList []⟩

/-- A longer name, a sign and a longer number on lines of their own. -/
def threeLines : Lexed :=
  ⟨[⟨⟨1, 1⟩, ⟨1, 7⟩, .identifier⟩, ⟨⟨2, 3⟩, ⟨2, 4⟩, .punctuation "="⟩, ⟨⟨4, 1⟩, ⟨4, 5⟩, .number⟩],
    .ofList []⟩

/-- Eight lines with one token each, of two values in turn. -/
def eightLines (a b : TokenValue) : Lexed :=
  ⟨(List.range 4).flatMap fun i =>
    [⟨⟨2 * i + 1, 1⟩, ⟨2 * i + 1, 2⟩, a⟩, ⟨⟨2 * i + 2, 1⟩, ⟨2 * i + 2, 2⟩, b⟩], .ofList []⟩

theorem oneLine_inOrder : InOrder oneLine.tokens := ⟨by decide, by decide⟩

theorem threeLines_inOrder : InOrder threeLines.tokens := ⟨by decide, by decide⟩

theorem eightLines_inOrder (a b : TokenValue) : InOrder (eightLines a b).tokens := by
  constructor
  · simp [eightLines, List.range_succ, Position.lt_def]
  · simp [eightLines, List.range_succ, Position.le_def]

/-- One line and the same tokens on three lines, compared with the one line. -/
theorem compareIndexed_relayout_threeLines :
    InOrder oneLine.tokens ∧ InOrder threeLines.tokens ∧
      oneLine.tokens.map Token.value = threeLines.tokens.map Token.value ∧
      oneLine.comments = threeLines.comments ∧
      (compareIndexed (.ofLexed ⟨2, 1, .crossProduct⟩ threeLines)
        (.ofLexed ⟨2, 1, .crossProduct⟩ oneLine) none none ⟨2, 1, .crossProduct⟩).regions =
      (compareIndexed (.ofLexed ⟨2, 1, .crossProduct⟩ oneLine)
        (.ofLexed ⟨2, 1, .crossProduct⟩ oneLine) none none ⟨2, 1, .crossProduct⟩).regions.map
        fun r => ⟨r.source.map (Span.move oneLine.tokens threeLines.tokens), r.target⟩ :=
  ⟨oneLine_inOrder, threeLines_inOrder, by decide, rfl,
    (compareIndexed_relayout oneLine_inOrder threeLines_inOrder (by decide) rfl _ _ _ _ _).2.1⟩

end Lookalike
