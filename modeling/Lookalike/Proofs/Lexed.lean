import Lookalike.Lexed
import Lookalike.Proofs.Layout
import Lookalike.Proofs.Span.Offset
import Mathlib.Data.List.TakeWhile
import Mathlib.Data.String.Basic

/-!
# Tokens of leaves

A leaf is taken if it ends beyond all leaves before it. The taken leaves that are comments make up
the comments, and each of the others becomes one token, unless it is nothing but white space.

The leaves of a tree come before or after each other, or one lies within another that has come
before. Of these, exactly those are taken that lie within none before them, and their tokens are in
document order.

## Main definitions

* `filterAfter` — entries that pass a test which also sees the entries before them.
* `Leaf.Significant` — a leaf that becomes a token.
* `Token.Of` — a token that stands where a leaf does and has its value.
* `Leaf.Nested` — leaves as those of a tree.

## Main statements

* `outermost_eq` — which leaves are taken.
* `Lexed.forall₂_tokens`, `Lexed.mem_comments` — the tokens and comments of the taken leaves.
* `ofLeaves_nested` — the tokens and comments of leaves as those of a tree.
-/

namespace Lookalike

/-! ## Tests that see the entries before -/

section FilterAfter

variable {α : Type} {test test' : List α → α → Bool} {xs : List α} {x : α}

/-- The entries that pass a test which also sees the entries before them. -/
def filterAfter (test : List α → α → Bool) (xs : List α) : List α :=
  (xs.zipIdx.filter fun x => test (xs.take x.2) x.1).map Prod.fst

@[simp, grind =] theorem filterAfter_nil : filterAfter test [] = [] := rfl

@[simp, grind =] theorem filterAfter_cons (x : α) (xs : List α) :
    filterAfter test (x :: xs) =
      (if test [] x then [x] else []) ++ filterAfter (fun before => test (x :: before)) xs := by
  have hrest : (xs.zipIdx 1).filter (fun y => test ((x :: xs).take y.2) y.1) =
      (xs.zipIdx.filter fun y => test (x :: xs.take y.2) y.1).map fun y => (y.1, y.2 + 1) := by
    rw [List.zipIdx_succ, List.filter_map]
    rfl
  rw [filterAfter, List.zipIdx_cons, List.filter_cons, hrest]
  split_ifs with h <;> simp_all [filterAfter, Function.comp_def]

/-- A member is kept where it passes the test behind the members before it. -/
@[grind =] theorem mem_filterAfter :
    x ∈ filterAfter test xs ↔ ∃ before after, xs = before ++ x :: after ∧ test before x := by
  induction xs generalizing test with
  | nil => simp
  | cons y ys ih =>
    rw [filterAfter_cons, List.mem_append, ih]
    constructor
    · rintro (hx | ⟨before, after, rfl, ht⟩)
      · split_ifs at hx with ht
        · obtain rfl := List.mem_singleton.1 hx
          exact ⟨[], ys, rfl, ht⟩
        · cases hx
      · exact ⟨y :: before, after, rfl, ht⟩
    · rintro ⟨before, after, h, ht⟩
      cases before with
      | nil =>
        obtain ⟨rfl, -⟩ := List.cons.inj h
        exact .inl (by simp [ht])
      | cons z before =>
        obtain ⟨rfl, hys⟩ := List.cons.inj h
        exact .inr ⟨before, after, hys, ht⟩

theorem filterAfter_congr
    (h : ∀ before x after, xs = before ++ x :: after → test before x = test' before x) :
    filterAfter test xs = filterAfter test' xs := by
  induction xs generalizing test test' with
  | nil => rfl
  | cons y ys ih =>
    rw [filterAfter_cons, filterAfter_cons, h [] y ys rfl]
    congr 1
    exact ih fun before x after hys => h (y :: before) x after (by rw [hys, List.cons_append])

theorem pairwise_filterAfter {R : α → α → Prop}
    (h : ∀ before x after, xs = before ++ x :: after → test before x → ∀ y ∈ before, R y x) :
    (filterAfter test xs).Pairwise R := by
  induction xs generalizing test with
  | nil => exact .nil
  | cons y ys ih =>
    have hrest : ∀ before x after, ys = before ++ x :: after → test (y :: before) x →
        ∀ z ∈ y :: before, R z x := fun before x after hys =>
      h (y :: before) x after (by rw [hys, List.cons_append])
    rw [filterAfter_cons, List.pairwise_append]
    refine ⟨by split_ifs <;> simp, ih fun before x after hys ht z hz => ?_, fun z hz x hx => ?_⟩
    · exact hrest before x after hys ht z (List.mem_cons_of_mem y hz)
    · obtain ⟨before, after, hys, ht⟩ := mem_filterAfter.1 hx
      split_ifs at hz with hy
      · obtain rfl := List.mem_singleton.1 hz
        exact hrest before x after hys ht z List.mem_cons_self
      · cases hz

end FilterAfter

variable {kinds : KindTable} {source : List Char} {l m : Leaf} {ls : List Leaf} {t : Token}

/-! ## Leaves that are taken -/

/-- A leaf is taken if it ends beyond the given offset and beyond all leaves before it. -/
theorem outermost_eq (reach : Nat) (ls : List Leaf) :
    outermost reach ls =
      filterAfter (fun before l => reach < l.stop ∧ ∀ m ∈ before, m.stop < l.stop) ls := by
  induction ls generalizing reach with
  | nil => rfl
  | cons l ls ih =>
    rw [outermost, filterAfter_cons]
    -- What the offset says about the leaves after the first one, it says together with that one.
    split_ifs with hl hlt hlt
    · simp at hlt; omega
    · rw [List.nil_append, ih]
      exact filterAfter_congr fun before m after _ => by grind
    · rw [List.singleton_append, ih]
      congr 1
      exact filterAfter_congr fun before m after _ => by grind
    · simp at hlt; omega

@[simp]
theorem outermost_sublist (reach : Nat) (ls : List Leaf) : (outermost reach ls).Sublist ls := by
  induction ls generalizing reach with
  | nil => exact .slnil
  | cons l ls ih =>
    rw [outermost]
    split_ifs
    · exact (ih reach).cons l
    · exact (ih l.stop).cons_cons l

/-! ## White space -/

@[simp, grind =]
theorem trimList_eq_nil_iff {cs : List Char} : trimList cs = [] ↔ ∀ c ∈ cs, isBlank c := by
  simp only [trimList, List.reverse_eq_nil_iff, List.dropWhile_eq_nil_iff, List.mem_reverse]
  constructor
  · intro h
    have hnil : cs.dropWhile isBlank = [] := by
      by_contra hne
      simpa [List.head_dropWhile_not isBlank hne] using h _ (List.head_mem hne)
    exact List.dropWhile_eq_nil_iff.1 hnil
  · exact fun h c hc => h c ((List.dropWhile_suffix _).subset hc)

/-! ## Tokens of leaves -/

/-- The leaf becomes a token: it is no comment, and it is a reserved word, a name, a number, a
string, or not nothing but white space. -/
def Leaf.Significant (kinds : KindTable) (source : List Char) (l : Leaf) : Prop :=
  l.kind ∉ kinds.comments ∧
    (String.ofList (l.text source) ∈ kinds.keywords ∨ l.kind ∈ kinds.identifiers ∨
      l.kind ∈ kinds.numbers ∨ l.kind ∈ kinds.strings ∨ ∃ c ∈ l.text source, isBlank c = false)

instance : DecidablePred (Leaf.Significant kinds source) := fun _ =>
  inferInstanceAs (Decidable (_ ∧ _))

/-- The token stands where the leaf does and has its value. -/
structure Token.Of (kinds : KindTable) (source : List Char) (l : Leaf) (t : Token) : Prop where
  start : t.start = .ofOffset source l.start
  stop : t.stop = .ofOffset source l.stop
  value : TokenValue.classify kinds l.kind (String.ofList (l.text source)) = some t.value

/-- A leaf has a value when its kind is one of the classes, its text is a keyword or not all of
its text is blank. -/
@[simp] theorem TokenValue.isSome_classify {kind text : String} :
    (classify kinds kind text).isSome ↔ text ∈ kinds.keywords ∨ kind ∈ kinds.identifiers ∨
      kind ∈ kinds.numbers ∨ kind ∈ kinds.strings ∨ ∃ c ∈ text.toList, isBlank c = false := by
  have htrim : (trim text).isEmpty = true ↔ ¬ ∃ c ∈ text.toList, isBlank c = false := by
    simp [String.isEmpty_iff, trim]
  simp only [classify, List.contains_iff_mem]
  split_ifs <;> simp_all

theorem Token.ofLeaf?_eq_some_iff :
    Token.ofLeaf? kinds source l = some t ↔
      l.kind ∉ kinds.comments ∧ Token.Of kinds source l t := by
  rw [ofLeaf?]
  split_ifs with hc
  · simp_all
  · simp only [Option.map_eq_some_iff]
    constructor
    · rintro ⟨v, hv, rfl⟩
      exact ⟨by simpa using hc, rfl, rfl, hv⟩
    · rintro ⟨-, hstart, hstop, hv⟩
      exact ⟨_, hv, by rw [← hstart, ← hstop]⟩

@[simp] theorem Token.isSome_ofLeaf? :
    (Token.ofLeaf? kinds source l).isSome ↔ l.Significant kinds source := by
  rw [ofLeaf?, Leaf.Significant]
  split_ifs with hc
  · simp_all
  · simp_all [TokenValue.isSome_classify]

theorem forall₂_filterMap {α β : Type} {f : α → Option β} {p : α → Bool}
    (h : ∀ a, (f a).isSome = p a) (xs : List α) :
    List.Forall₂ (fun a b => f a = some b) (xs.filter p) (xs.filterMap f) := by
  induction xs with
  | nil => exact .nil
  | cons x xs ih =>
    rw [List.filter_cons, ← h]
    cases hx : f x with
    | none => simpa [hx] using ih
    | some b => simpa [hx] using ih

/-- Every taken leaf that is significant becomes one token. -/
theorem Lexed.forall₂_tokens (kinds : KindTable) (source : String) (leaves : List Leaf) :
    List.Forall₂ (Token.Of kinds source.toList)
      ((outermost 0 leaves).filter (Leaf.Significant kinds source.toList))
      (ofLeaves kinds source leaves).tokens := by
  have hsome : ∀ l, (Token.ofLeaf? kinds source.toList l).isSome =
      decide (l.Significant kinds source.toList) := by
    intro l
    rw [Bool.eq_iff_iff, Token.isSome_ofLeaf?, decide_eq_true_iff]
  exact (forall₂_filterMap hsome _).imp fun l t h => (Token.ofLeaf?_eq_some_iff.1 h).2

/-- The comments are the texts of the taken leaves that are comments. -/
theorem Lexed.mem_comments {source : String} {leaves : List Leaf} {text : String} :
    text ∈ (ofLeaves kinds source leaves).comments.toList ↔
      ∃ l ∈ outermost 0 leaves, l.kind ∈ kinds.comments ∧
        String.ofList (l.text source.toList) = text := by
  refine (Ordered.mem_ofList (fun _ _ _ _ h => h) text).trans ?_
  simp [Leaf.comment?]

/-! ## Order of tokens -/

/-- The leaf covers a range of the text and cuts no character. -/
structure Leaf.InText (source : List Char) (l : Leaf) : Prop where
  start_le_stop : l.start ≤ l.stop
  start : IsBoundary source l.start
  stop : IsBoundary source l.stop

instance : Decidable (l.InText source) :=
  decidable_of_iff (l.start ≤ l.stop ∧ IsBoundary source l.start ∧ IsBoundary source l.stop)
    ⟨fun h => ⟨h.1, h.2.1, h.2.2⟩, fun h => ⟨h.1, h.2, h.3⟩⟩

section Order

variable {ts : List Token} {u : Token} (hsize : byteLength source < 2 ^ 32 - 1)
  (hl : l.InText source) (hm : m.InText source) (ht : Token.Of kinds source l t)
  (hu : Token.Of kinds source m u)

include hsize hl ht

theorem Token.Of.start_le_stop : t.start ≤ t.stop := by
  rw [ht.start, ht.stop]
  exact (Position.strictMonoOn_ofOffset hsize).monotoneOn hl.start hl.stop hl.start_le_stop

/-- A token is empty exactly when its leaf is. -/
theorem Token.Of.start_lt_stop_iff : t.start < t.stop ↔ l.start < l.stop := by
  rw [ht.start, ht.stop]
  exact (Position.strictMonoOn_ofOffset hsize).lt_iff_lt hl.start hl.stop

include hm hu

/-- Positions order the tokens as the byte offsets order their leaves. -/
theorem Token.Of.stop_le_start_iff : t.stop ≤ u.start ↔ l.stop ≤ m.start := by
  rw [ht.stop, hu.start]
  exact (Position.strictMonoOn_ofOffset hsize).le_iff_le hl.stop hm.start

omit hl hm ht hu

/-- Tokens are in document order if and only if their leaves are. -/
theorem inOrder_iff (hls : ∀ l ∈ ls, l.InText source)
    (h : List.Forall₂ (Token.Of kinds source) ls ts) :
    InOrder ts ↔ (∀ l ∈ ls, l.start < l.stop) ∧ ls.IsChain fun l m => l.stop ≤ m.start := by
  have hlt : (∀ t ∈ ts, t.start < t.stop) ↔ ∀ l ∈ ls, l.start < l.stop := by
    induction h with
    | nil => simp
    | cons ht _ ih =>
      simp only [List.forall_mem_cons] at hls ⊢
      rw [ht.start_lt_stop_iff hsize hls.1, ih hls.2]
  have hchain : (ts.IsChain fun s t => s.stop ≤ t.start) ↔
      ls.IsChain fun l m => l.stop ≤ m.start := by
    clear hlt
    induction h with
    | nil => simp
    | cons ht h ih =>
      rw [List.forall_mem_cons] at hls
      cases h with
      | nil => simp
      | cons hu h =>
        have hm := hls.2 _ List.mem_cons_self
        rw [List.isChain_cons_cons, List.isChain_cons_cons, ih hls.2,
          ht.stop_le_start_iff hsize hls.1 hm hu]
  exact ⟨fun h => ⟨hlt.1 h.1, hchain.1 h.2⟩, fun h => ⟨hlt.2 h.1, hchain.2 h.2⟩⟩

end Order

/-! ## Leaves of a tree -/

/-- The leaf starts no earlier and stops no later than the other. -/
def Leaf.Within (l m : Leaf) : Prop := m.start ≤ l.start ∧ l.stop ≤ m.stop

instance (l m : Leaf) : Decidable (l.Within m) := inferInstanceAs (Decidable (_ ∧ _))

/-- Every leaf starts where all leaves before it have stopped, or lies within one of them. -/
def Leaf.Nested (ls : List Leaf) : Prop :=
  ∀ i : Fin ls.length, (∀ m ∈ ls.take i, m.stop ≤ ls[i].start) ∨ ∃ m ∈ ls.take i, ls[i].Within m

instance : Decidable (Leaf.Nested ls) := inferInstanceAs (Decidable (∀ _ : Fin _, _))

/-- In a nested list a leaf begins behind every leaf before it, or lies within one of them. -/
theorem Leaf.Nested.of_append (h : Leaf.Nested ls) {before after : List Leaf}
    (hls : ls = before ++ l :: after) :
    (∀ m ∈ before, m.stop ≤ l.start) ∨ ∃ m ∈ before, l.Within m := by
  subst hls
  simpa using h ⟨before.length, by simp⟩

/-- Of leaves as those of a tree, those are taken that lie within none before them. -/
theorem outermost_nested (h : Leaf.Nested ls) (hlt : ∀ l ∈ ls, l.start < l.stop) :
    outermost 0 ls = filterAfter (fun before l => ∀ m ∈ before, ¬ l.Within m) ls := by
  rw [outermost_eq]
  refine filterAfter_congr fun before l after hls => ?_
  have hl : l.start < l.stop := hlt l (by simp [hls])
  simp only [decide_eq_decide]
  constructor
  · rintro ⟨-, hstop⟩ m hm hw
    exact absurd (hstop m hm) (by rw [not_lt]; exact hw.2)
  · intro hw
    refine ⟨by omega, fun m hm => ?_⟩
    rcases h.of_append hls with hstart | ⟨m', hm', hw'⟩
    · exact (hstart m hm).trans_lt hl
    · exact absurd hw' (hw m' hm')

theorem pairwise_outermost_nested (h : Leaf.Nested ls) (hlt : ∀ l ∈ ls, l.start < l.stop) :
    (outermost 0 ls).Pairwise fun l m => l.stop ≤ m.start := by
  rw [outermost_nested h hlt]
  refine pairwise_filterAfter fun before l after hls hw m hm => ?_
  rcases h.of_append hls with hstart | ⟨m', hm', hw'⟩
  · exact hstart m hm
  · exact absurd hw' (of_decide_eq_true hw m' hm')

/-- Of leaves as those of a tree, exactly those are taken that lie within none before them. The
comments are the texts of those that are comments; each of the others becomes one token unless it is
nothing but white space and has no class, and the tokens are in document order. -/
theorem ofLeaves_nested (kinds : KindTable) (source : String) (leaves : List Leaf)
    (hsize : source.utf8ByteSize < 2 ^ 32 - 1)
    (hleaves : ∀ l ∈ leaves, l.start < l.stop ∧ IsBoundary source.toList l.start ∧
      IsBoundary source.toList l.stop)
    (hnested : Leaf.Nested leaves) :
    let taken := filterAfter (fun before l => ∀ m ∈ before, ¬ l.Within m) leaves
    let lexed := Lexed.ofLeaves kinds source leaves
    outermost 0 leaves = taken ∧
      (∀ text, text ∈ lexed.comments.toList ↔
        ∃ l ∈ taken, l.kind ∈ kinds.comments ∧ String.ofList (l.text source.toList) = text) ∧
      List.Forall₂ (Token.Of kinds source.toList)
        (taken.filter (Leaf.Significant kinds source.toList)) lexed.tokens ∧
      InOrder lexed.tokens := by
  intro taken lexed
  have hlt : ∀ l ∈ leaves, l.start < l.stop := fun l hl => (hleaves l hl).1
  have htaken : outermost 0 leaves = taken := outermost_nested hnested hlt
  have htokens := Lexed.forall₂_tokens kinds source leaves
  rw [htaken] at htokens
  have hmem : ∀ l ∈ taken.filter (Leaf.Significant kinds source.toList), l ∈ leaves := fun l hl =>
    (outermost_sublist 0 leaves).mem (htaken ▸ List.mem_of_mem_filter hl)
  refine ⟨htaken, fun text => htaken ▸ Lexed.mem_comments, htokens, ?_⟩
  refine (inOrder_iff (byteLength_toList source ▸ hsize) (fun l hl => ?_) htokens).2
    ⟨fun l hl => hlt l (hmem l hl), ?_⟩
  · obtain ⟨h, hstart, hstop⟩ := hleaves l (hmem l hl)
    exact ⟨h.le, hstart, hstop⟩
  · exact ((htaken ▸ pairwise_outermost_nested hnested hlt).filter _).isChain

/-- A return statement with a name of two bytes, an argument list with leaves inside it and a
comment. -/
theorem ofLeaves_nested_call :
    let kinds : KindTable := ⟨["identifier"], [], [], ["comment"], ["return"]⟩
    let source := "return é(x)\n# n\n"
    let leaves : List Leaf := [⟨"return", 0, 6⟩, ⟨"identifier", 7, 9⟩, ⟨"argument_list", 9, 12⟩,
      ⟨"(", 9, 10⟩, ⟨"identifier", 10, 11⟩, ⟨")", 11, 12⟩, ⟨"newline", 12, 13⟩, ⟨"comment", 13, 16⟩]
    source.utf8ByteSize < 2 ^ 32 - 1 ∧
      (∀ l ∈ leaves, l.start < l.stop ∧ IsBoundary source.toList l.start ∧
        IsBoundary source.toList l.stop) ∧
      Leaf.Nested leaves ∧ InOrder (Lexed.ofLeaves kinds source leaves).tokens ∧
      "# n" ∈ (Lexed.ofLeaves kinds source leaves).comments.toList := by
  intro kinds source leaves
  have hsize : source.utf8ByteSize < 2 ^ 32 - 1 := by decide
  have hleaves : ∀ l ∈ leaves, l.start < l.stop ∧ IsBoundary source.toList l.start ∧
      IsBoundary source.toList l.stop := by decide
  have hnested : Leaf.Nested leaves := by decide
  obtain ⟨-, hcomments, -, horder⟩ := ofLeaves_nested kinds source leaves hsize hleaves hnested
  exact ⟨hsize, hleaves, hnested, horder, (hcomments _).2 ⟨⟨"comment", 13, 16⟩, by decide⟩⟩

end Lookalike
