import Lookalike.Proofs.Lexed

/-!
# Overlapping and empty leaves

Leaves that overlap without lying within each other, and empty leaves that stand in a gap, end
beyond all leaves before them and so are taken. An empty leaf that is a name becomes an empty token,
and the tokens of leaves that overlap do so too. What holds of all leaves in ascending order is that
the stops of their tokens ascend, and that tokens are in document order if and only if the leaves
that became tokens are.

## Main statements

* `Lexed.ofLeaves_covered` — a leaf that ends no later than one before it makes no difference.
* `ofLeaves_ascending` — tokens and comments of leaves in ascending order.
* `gapsAndOverlaps_not_inOrder` — leaves in ascending order whose tokens are not in document order.
-/

namespace Lookalike

variable {kinds : KindTable} {source : List Char} {l : Leaf} {ls before after : List Leaf}
  {ts : List Token} {reach : Nat}

/-! ## Leaves that are not taken -/

/-- A leaf that ends no further than what was taken before it changes nothing when it is left
out. -/
theorem outermost_covered (h : l.stop ≤ reach ∨ ∃ m ∈ before, l.stop ≤ m.stop) :
    outermost reach (before ++ l :: after) = outermost reach (before ++ after) := by
  induction before generalizing reach with
  | nil => simp_all [outermost]
  | cons m ms ih =>
    simp only [List.cons_append, outermost, List.exists_mem_cons_iff] at h ⊢
    split_ifs with hm
    · refine ih ?_
      rcases h with h | h | h
      · exact .inl h
      · exact .inl (h.trans hm)
      · exact .inr h
    · rw [ih]
      rcases h with h | h | h
      · exact .inl (by omega)
      · exact .inl h
      · exact .inr h

theorem Lexed.ofLeaves_covered {source : String}
    (h : l.stop = 0 ∨ ∃ m ∈ before, l.stop ≤ m.stop) :
    ofLeaves kinds source (before ++ l :: after) = ofLeaves kinds source (before ++ after) := by
  rw [← Nat.le_zero] at h
  simp only [ofLeaves, outermost_covered h]

/-! ## Empty leaves -/

/-- The text of a leaf lies between its two offsets. -/
theorem Leaf.InText.exists_text (h : l.InText source) :
    ∃ xs ys, source = xs ++ l.text source ++ ys ∧ byteLength xs = l.start ∧
      byteLength (xs ++ l.text source) = l.stop := by
  obtain ⟨xs, ys, zs, rfl, hstart, hstop⟩ :=
    exists_eq_append_of_isBoundary h.start h.stop h.start_le_stop
  have htext : l.text (xs ++ ys ++ zs) = ys := by
    rw [Leaf.text, ← hstart, ← hstop, slice?_append, Option.getD_some]
  exact ⟨xs, zs, by rw [htext], hstart, by rw [htext, hstop]⟩

theorem Leaf.InText.text_eq_nil_iff (h : l.InText source) :
    l.text source = [] ↔ l.start = l.stop := by
  obtain ⟨xs, ys, -, hstart, hstop⟩ := h.exists_text
  rw [byteLength_append] at hstop
  rw [← byteLength_eq_zero]
  omega

/-- An empty leaf is significant by its kind alone, or because the empty text is a keyword. -/
theorem Leaf.InText.significant_of_empty (h : l.InText source) (he : l.start = l.stop) :
    l.Significant kinds source ↔ l.kind ∉ kinds.comments ∧ ("" ∈ kinds.keywords ∨
      l.kind ∈ kinds.identifiers ∨ l.kind ∈ kinds.numbers ∨ l.kind ∈ kinds.strings) := by
  rw [Leaf.Significant, h.text_eq_nil_iff.2 he]
  simp

/-! ## Order of tokens -/

/-- The leaves that are taken end one behind the other. -/
theorem pairwise_stop_outermost (reach : Nat) (ls : List Leaf) :
    (outermost reach ls).Pairwise fun l m => l.stop < m.stop := by
  rw [outermost_eq]
  exact pairwise_filterAfter fun before l after _ h m hm => (of_decide_eq_true h).2 m hm

theorem pairwise_of_forall₂ {α β : Type} {R : α → β → Prop} {P : α → α → Prop} {Q : β → β → Prop}
    {xs : List α} {ys : List β} (hPQ : ∀ {a b c d}, R a b → R c d → P a c → Q b d)
    (h : List.Forall₂ R xs ys) (hxs : xs.Pairwise P) : ys.Pairwise Q := by
  obtain ⟨hlen, hget⟩ := List.forall₂_iff_get.1 h
  rw [List.pairwise_iff_get] at hxs ⊢
  intro i j hij
  have hi := hget i (by omega) i.2
  have hj := hget j (by omega) j.2
  exact hPQ hi hj (hxs _ _ hij)

theorem start_le_stop_of_forall₂ (hsize : byteLength source < 2 ^ 32 - 1)
    (hls : ∀ l ∈ ls, l.InText source) (h : List.Forall₂ (Token.Of kinds source) ls ts) :
    ∀ t ∈ ts, t.start ≤ t.stop := by
  induction h with
  | nil => simp
  | cons ht _ ih =>
    rw [List.forall_mem_cons] at hls ⊢
    exact ⟨ht.start_le_stop hsize hls.1, ih hls.2⟩

/-- The tokens of leaves in ascending order start in this order, and each stops later than those
before it. -/
theorem pairwise_tokens (hsize : byteLength source < 2 ^ 32 - 1) (hls : ∀ l ∈ ls, l.InText source)
    (hp : ls.Pairwise fun l m => l.start ≤ m.start ∧ l.stop < m.stop)
    (h : List.Forall₂ (Token.Of kinds source) ls ts) :
    ts.Pairwise fun s t => s.start ≤ t.start ∧ s.stop < t.stop := by
  have hmono := Position.strictMonoOn_ofOffset hsize
  refine pairwise_of_forall₂ (fun {l s m t} hs ht hlm => ?_)
    ((List.forall₂_and_left _ _).2 ⟨hls, h⟩) hp
  obtain ⟨hl, hs⟩ := hs
  obtain ⟨hm, ht⟩ := ht
  rw [hs.start, hs.stop, ht.start, ht.stop]
  exact ⟨hmono.monotoneOn hl.start hm.start hlm.1, hmono hl.stop hm.stop hlm.2⟩

/-- For leaves in ascending order of their starts, which may overlap and be empty: a leaf that ends
no later than one before it makes no difference. Every other one is taken; an empty one among them
is a comment without text or becomes an empty token if it has a class. In a text of less than
`2 ^ 32 - 1` bytes, tokens start in ascending order and stop in strictly ascending order, and they
are in document order if and only if none of their leaves is empty and each has stopped where the
next one starts. -/
theorem ofLeaves_ascending (kinds : KindTable) (source : String) (leaves : List Leaf)
    (hleaves : ∀ l ∈ leaves, l.InText source.toList)
    (hstart : leaves.Pairwise fun l m => l.start ≤ m.start) :
    let taken := filterAfter (fun before l => 0 < l.stop ∧ ∀ m ∈ before, m.stop < l.stop) leaves
    let kept := taken.filter (Leaf.Significant kinds source.toList)
    let lexed := Lexed.ofLeaves kinds source leaves
    (∀ before l after, leaves = before ++ l :: after →
        (l.stop = 0 ∨ ∃ m ∈ before, l.stop ≤ m.stop) →
        lexed = Lexed.ofLeaves kinds source (before ++ after)) ∧
      (∀ text, text ∈ lexed.comments.toList ↔
        ∃ l ∈ taken, l.kind ∈ kinds.comments ∧ String.ofList (l.text source.toList) = text) ∧
      (∀ l ∈ taken, l.start = l.stop → l.text source.toList = [] ∧
        (l ∈ kept ↔ l.kind ∉ kinds.comments ∧ ("" ∈ kinds.keywords ∨
          l.kind ∈ kinds.identifiers ∨ l.kind ∈ kinds.numbers ∨ l.kind ∈ kinds.strings))) ∧
      List.Forall₂ (Token.Of kinds source.toList) kept lexed.tokens ∧
      (source.utf8ByteSize < 2 ^ 32 - 1 →
        (∀ t ∈ lexed.tokens, t.start ≤ t.stop) ∧
          lexed.tokens.Pairwise (fun s t => s.start ≤ t.start ∧ s.stop < t.stop) ∧
          (InOrder lexed.tokens ↔
            (∀ l ∈ kept, l.start < l.stop) ∧ kept.IsChain fun l m => l.stop ≤ m.start)) := by
  intro taken kept lexed
  have htaken : outermost 0 leaves = taken := outermost_eq 0 leaves
  have hsub : taken.Sublist leaves := htaken ▸ outermost_sublist 0 leaves
  have hkept : ∀ l ∈ kept, l.InText source.toList := fun l hl =>
    hleaves l (hsub.mem (List.mem_of_mem_filter hl))
  have htokens : List.Forall₂ (Token.Of kinds source.toList) kept lexed.tokens := by
    have h := Lexed.forall₂_tokens kinds source leaves
    rwa [htaken] at h
  have hp : kept.Pairwise fun l m => l.start ≤ m.start ∧ l.stop < m.stop :=
    ((hstart.sublist hsub).and (htaken ▸ pairwise_stop_outermost 0 leaves)).filter _
  refine ⟨?_, fun text => htaken ▸ Lexed.mem_comments, fun l hl he => ⟨?_, ?_⟩, htokens,
    fun hsize => ?_⟩
  · rintro before l after rfl h
    exact Lexed.ofLeaves_covered h
  · exact (hleaves l (hsub.mem hl)).text_eq_nil_iff.2 he
  · rw [← (hleaves l (hsub.mem hl)).significant_of_empty he, List.mem_filter]
    simp [hl]
  · rw [← byteLength_toList] at hsize
    exact ⟨start_le_stop_of_forall₂ hsize hkept htokens, pairwise_tokens hsize hkept hp htokens,
      inOrder_iff hsize hkept htokens⟩

def namesAndComments : KindTable := ⟨["identifier"], [], [], ["comment"], []⟩

/-- Leaves of `a b cde`: an empty name and an empty comment, each after a blank, and two names that
overlap. -/
def gapsAndOverlaps : List Leaf :=
  [⟨"identifier", 0, 1⟩, ⟨"identifier", 2, 2⟩, ⟨"identifier", 2, 3⟩, ⟨"comment", 4, 4⟩,
    ⟨"identifier", 4, 6⟩, ⟨"identifier", 5, 7⟩]

/-- A source with an empty leaf behind a gap and two leaves that overlap. -/
theorem ofLeaves_ascending_gapsAndOverlaps :
    (∀ l ∈ gapsAndOverlaps, l.InText "a b cde".toList) ∧
      gapsAndOverlaps.Pairwise (fun l m => l.start ≤ m.start) ∧
      "a b cde".utf8ByteSize < 2 ^ 32 - 1 ∧
      (Lexed.ofLeaves namesAndComments "a b cde" gapsAndOverlaps).tokens.Pairwise
        (fun s t => s.start ≤ t.start ∧ s.stop < t.stop) := by
  have hsize : "a b cde".utf8ByteSize < 2 ^ 32 - 1 := by decide
  have hleaves : ∀ l ∈ gapsAndOverlaps, l.InText "a b cde".toList := by decide
  have hstart : gapsAndOverlaps.Pairwise fun l m => l.start ≤ m.start := by decide
  obtain ⟨-, -, -, -, horder⟩ :=
    ofLeaves_ascending namesAndComments "a b cde" gapsAndOverlaps hleaves hstart
  exact ⟨hleaves, hstart, hsize, (horder hsize).2.1⟩

/-- An empty name after a blank becomes an empty token, an empty comment there becomes a comment
without text, and the tokens of names that overlap do so too. -/
theorem gapsAndOverlaps_not_inOrder :
    (∀ l ∈ gapsAndOverlaps, l.InText "a b cde".toList) ∧
      gapsAndOverlaps.Pairwise (fun l m => l.start ≤ m.start) ∧ "" ∉ namesAndComments.keywords ∧
      let lexed := Lexed.ofLeaves namesAndComments "a b cde" gapsAndOverlaps
      "" ∈ lexed.comments.toList ∧ (∃ t ∈ lexed.tokens, ¬ t.start < t.stop) ∧
        ¬ lexed.tokens.IsChain fun s t => s.stop ≤ t.start := by
  decide +kernel

end Lookalike
