import Lookalike.Proofs.Lexed

/-!
# Renamed leaves

Two texts with leaves of the same kinds may differ in names and literals, in the white space and
whatever else stands between leaves, and so in all offsets. If all other leaves have the same texts,
their tokens have the same values and their comments are the same, and so are the hashes and places
of k-grams and fingerprints.

## Main definitions

* `KindTable.IsClass` — kinds of which only the class is compared.
* `Leaf.Apart` — leaves that are not empty and do not overlap.
* `Leaf.Renamed` — two leaves of one kind with the same text, or of which only the class counts.

## Main statements

* `TokenValue.classify_eq_iff` — which texts of one kind have the same value.
* `ofLeaves_renamed` — tokens and comments of renamed leaves, and their k-grams and fingerprints.
-/

namespace Lookalike

variable {kinds : KindTable} {source source' : List Char} {l l' : Leaf} {ls ls' : List Leaf}

/-! ## Values of leaves -/

/-- The kind is that of names, numbers or strings. -/
def KindTable.IsClass (kinds : KindTable) (kind : String) : Prop :=
  kind ∈ kinds.identifiers ∨ kind ∈ kinds.numbers ∨ kind ∈ kinds.strings

instance (kind : String) : Decidable (kinds.IsClass kind) := inferInstanceAs (Decidable (_ ∨ _))

namespace TokenValue

variable {kind text text' : String}

@[simp] theorem classify_of_keyword (h : text ∈ kinds.keywords) :
    classify kinds kind text = some (.keyword text) := by
  simp [classify, h]

/-- The value of a name or a literal is the first class that its kind is listed for. -/
theorem classify_of_isClass (hk : kinds.IsClass kind) (h : text ∉ kinds.keywords) :
    classify kinds kind text =
      some (if kind ∈ kinds.identifiers then .identifier
        else if kind ∈ kinds.numbers then .number else .string) := by
  simp only [classify, List.contains_iff_mem, if_neg h]
  split_ifs <;> simp_all [KindTable.IsClass]

/-- Outside the classes the text itself is the value, once its blanks are trimmed. -/
theorem classify_of_not_isClass (hk : ¬ kinds.IsClass kind) (h : text ∉ kinds.keywords) :
    classify kinds kind text =
      if (trim text).isEmpty then none else some (.punctuation (trim text)) := by
  simp only [KindTable.IsClass, not_or] at hk
  simp [classify, h, hk]

@[simp] theorem classify_ne_keyword (h : text ∉ kinds.keywords) (word : String) :
    classify kinds kind text ≠ some (.keyword word) := by
  by_cases hk : kinds.IsClass kind
  · rw [classify_of_isClass hk h]
    split_ifs <;> simp
  · rw [classify_of_not_isClass hk h]
    split_ifs <;> simp

/-- Two texts of one kind have the same value only if they are equal or neither is a reserved word,
and then if only their class counts or they differ in the white space at their ends. -/
theorem classify_eq_iff :
    classify kinds kind text = classify kinds kind text' ↔
      text = text' ∨ text ∉ kinds.keywords ∧ text' ∉ kinds.keywords ∧
        (kinds.IsClass kind ∨ trim text = trim text') := by
  have hne (h : text ∈ kinds.keywords ↔ text' ∉ kinds.keywords) : text ≠ text' := by
    rintro rfl
    simp at h
  by_cases h : text ∈ kinds.keywords <;> by_cases h' : text' ∈ kinds.keywords
  · simp [h, h']
  · simp [(classify_ne_keyword h' text).symm, h, hne (by simp [h, h'])]
  · simp [h, h', hne (by simp [h, h'])]
  · simp only [h, h', not_false_eq_true, true_and]
    by_cases hk : kinds.IsClass kind
    · simp [classify_of_isClass hk, h, h', hk]
    · have htrim : text = text' → trim text = trim text' := congrArg trim
      rw [classify_of_not_isClass hk h, classify_of_not_isClass hk h']
      split_ifs <;> simp_all [String.isEmpty_iff] <;> grind

end TokenValue

/-! ## Leaves -/

/-- No leaf is empty, and each stops where the leaves after it start or before. -/
structure Leaf.Apart (ls : List Leaf) : Prop where
  start_lt_stop : ∀ l ∈ ls, l.start < l.stop
  stop_le_start : ls.Pairwise fun l m => l.stop ≤ m.start

/-- Two leaves of one kind. Their texts are the same, or they are names or literals but neither
reserved words nor comments. -/
structure Leaf.Renamed (kinds : KindTable) (source source' : List Char) (l l' : Leaf) : Prop where
  kind : l.kind = l'.kind
  text : l.text source = l'.text source' ∨
    l.kind ∉ kinds.comments ∧ kinds.IsClass l.kind ∧
      String.ofList (l.text source) ∉ kinds.keywords ∧
      String.ofList (l'.text source') ∉ kinds.keywords

/-- All leaves are taken. -/
theorem outermost_apart (h : Leaf.Apart ls) : outermost 0 ls = ls := by
  suffices hreach : ∀ reach, (∀ l ∈ ls, reach ≤ l.start) → outermost reach ls = ls from
    hreach 0 fun l _ => l.start.zero_le
  obtain ⟨hlt, hp⟩ := h
  induction ls with
  | nil => simp [outermost]
  | cons l ls ih =>
    intro reach hreach
    rw [List.forall_mem_cons] at hlt hreach
    rw [List.pairwise_cons] at hp
    rw [outermost, if_neg (by omega), ih hlt.2 hp.2 l.stop hp.1]

/-- A leaf and its renamed one have the same value, or neither has one. -/
theorem Leaf.Renamed.value_eq (h : l.Renamed kinds source source' l') :
    (Token.ofLeaf? kinds source l).map Token.value =
      (Token.ofLeaf? kinds source' l').map Token.value := by
  have hclass : l.kind ∉ kinds.comments →
      TokenValue.classify kinds l.kind (String.ofList (l.text source)) =
        TokenValue.classify kinds l.kind (String.ofList (l'.text source')) := by
    rw [TokenValue.classify_eq_iff]
    rcases h.text with htext | ⟨-, hk, hw, hw'⟩
    · exact fun _ => .inl (by rw [htext])
    · exact fun _ => .inr ⟨hw, hw', .inl hk⟩
  simp only [Token.ofLeaf?, ← h.kind, List.contains_iff_mem]
  split_ifs with hc
  · rfl
  · rw [hclass hc, Option.map_map, Option.map_map]
    rfl

theorem Leaf.Renamed.comment_eq (h : l.Renamed kinds source source' l') :
    l.comment? kinds source = l'.comment? kinds source' := by
  simp only [comment?, ← h.kind, List.contains_iff_mem]
  rcases h.text with htext | ⟨hc, -⟩
  · rw [htext]
  · rw [if_neg hc, if_neg hc]

theorem filterMap_eq_of_forall₂ {α β γ : Type} {f : α → Option γ} {g : β → Option γ}
    {xs : List α} {ys : List β} (h : List.Forall₂ (fun x y => f x = g y) xs ys) :
    xs.filterMap f = ys.filterMap g := by
  induction h with
  | nil => rfl
  | cons hxy _ ih => simp only [List.filterMap_cons, hxy, ih]

/-! ## What a comparison sees -/

def KGram.key (g : KGram) : Nat × Nat := (g.position, g.hash)

theorem map_key_of_forall₂ {S : Span → Span → Prop} {gs hs : List KGram}
    (h : List.Forall₂ (KGram.Alike S) gs hs) : gs.map KGram.key = hs.map KGram.key := by
  induction h with
  | nil => rfl
  | cons hg _ ih =>
    rw [List.map_cons, List.map_cons, ih, KGram.key, hg.position, hg.hash, KGram.key]

/-- Texts whose leaves are of the same kinds, with other names and literals and whatever between
them, have tokens of the same values and the same comments. Their k-grams have the same hashes and
places, and so have their fingerprints. -/
theorem ofLeaves_renamed (kinds : KindTable) (source source' : String) (leaves leaves' : List Leaf)
    (hapart : Leaf.Apart leaves) (hapart' : Leaf.Apart leaves')
    (h : List.Forall₂ (Leaf.Renamed kinds source.toList source'.toList) leaves leaves') :
    let lexed := Lexed.ofLeaves kinds source leaves
    let lexed' := Lexed.ofLeaves kinds source' leaves'
    lexed.tokens.map Token.value = lexed'.tokens.map Token.value ∧
      lexed.comments = lexed'.comments ∧
      (∀ k, (kgrams lexed.tokens k).map KGram.key = (kgrams lexed'.tokens k).map KGram.key) ∧
      ∀ k w, (winnow (kgrams lexed.tokens k) w).toList.map KGram.key =
        (winnow (kgrams lexed'.tokens k) w).toList.map KGram.key := by
  intro lexed lexed'
  have hvalues : lexed.tokens.map Token.value = lexed'.tokens.map Token.value := by
    simp only [lexed, lexed', Lexed.ofLeaves, outermost_apart hapart, outermost_apart hapart',
      List.map_filterMap]
    exact filterMap_eq_of_forall₂ (h.imp fun _ _ hl => hl.value_eq)
  have hcomments : lexed.comments = lexed'.comments := by
    simp only [lexed, lexed', Lexed.ofLeaves, outermost_apart hapart, outermost_apart hapart']
    exact congrArg _ (filterMap_eq_of_forall₂ (h.imp fun _ _ hl => hl.comment_eq))
  have hgrams := forall₂_kgrams hvalues
  exact ⟨hvalues, hcomments, fun k => map_key_of_forall₂ (hgrams k),
    fun k w => map_key_of_forall₂ (forall₂_winnow (KGram.faithful_alike _) (hgrams k) w)⟩

/-- Another name, another number and less white space, with the same reserved word, sign and
comment. -/
theorem ofLeaves_renamed_sum :
    let kinds : KindTable := ⟨["identifier"], ["integer"], ["string"], ["comment"], ["return"]⟩
    let source := "return é + 1 # n"
    let source' := "return total+22# n"
    let leaves : List Leaf := [⟨"return", 0, 6⟩, ⟨"identifier", 7, 9⟩, ⟨"+", 10, 11⟩,
      ⟨"integer", 12, 13⟩, ⟨"comment", 14, 17⟩]
    let leaves' : List Leaf := [⟨"return", 0, 6⟩, ⟨"identifier", 7, 12⟩, ⟨"+", 12, 13⟩,
      ⟨"integer", 13, 15⟩, ⟨"comment", 15, 18⟩]
    Leaf.Apart leaves ∧ Leaf.Apart leaves' ∧
      List.Forall₂ (Leaf.Renamed kinds source.toList source'.toList) leaves leaves' ∧
      (Lexed.ofLeaves kinds source' leaves').tokens.map Token.value =
        [.keyword "return", .identifier, .punctuation "+", .number] ∧
      (Lexed.ofLeaves kinds source leaves).tokens.map Token.value =
        [.keyword "return", .identifier, .punctuation "+", .number] ∧
      "# n" ∈ (Lexed.ofLeaves kinds source leaves).comments.toList := by
  intro kinds source source' leaves leaves'
  have hapart : Leaf.Apart leaves := ⟨by decide, by decide⟩
  have hapart' : Leaf.Apart leaves' := ⟨by decide, by decide⟩
  have hrenamed : List.Forall₂ (Leaf.Renamed kinds source.toList source'.toList) leaves leaves' :=
    .cons ⟨rfl, by decide⟩ <| .cons ⟨rfl, by decide⟩ <| .cons ⟨rfl, by decide⟩ <|
      .cons ⟨rfl, by decide⟩ <| .cons ⟨rfl, by decide⟩ .nil
  have hvalues : (Lexed.ofLeaves kinds source' leaves').tokens.map Token.value =
      [.keyword "return", .identifier, .punctuation "+", .number] := by decide +kernel
  have hcomments : "# n" ∈ (Lexed.ofLeaves kinds source' leaves').comments.toList := by
    decide +kernel
  obtain ⟨hv, hc, -⟩ := ofLeaves_renamed kinds source source' leaves leaves' hapart hapart' hrenamed
  exact ⟨hapart, hapart', hrenamed, hvalues, hv.trans hvalues, hc ▸ hcomments⟩

end Lookalike
