import Lookalike.Glob.Parser
import Lookalike.Proofs.Text.Bytes

/-!
# Patterns that do not see the place of a tree

A pattern is tried on the path of a file from the root of a tree and on its absolute path, of which
the first one is the end, behind a slash. Some patterns never match the absolute path alone: those
that begin with something that stands for no slash, and those that stand for slashes only in
wildcards at their start.

## Main definitions

* `Glob.isPortable` — a pattern is of one of the two kinds.

## Main statements

* `Glob.mem_sequenceRests_cons` — parts match one after the other.
* `Glob.accepts_of_isPortable` — a portable pattern matches the path from the root if it matches the
  absolute path.
-/

namespace Lookalike

namespace Glob

variable {w : Wildcards} {p : Part} {ps : List Part} {path rest : List UInt8}
  {paths : List (List UInt8)}

/-! ## Parts one after the other -/

/-- What a sequence leaves of several paths is what it leaves of one of them. -/
theorem mem_sequenceRests_iff :
    rest ∈ sequenceRests w ps paths ↔ ∃ path ∈ paths, rest ∈ sequenceRests w ps [path] := by
  induction ps generalizing paths with
  | nil => simp [sequenceRests]
  | cons p ps ih =>
    rw [sequenceRests, ih]
    simp only [List.mem_eraseDups, List.mem_flatMap]
    constructor
    · rintro ⟨mid, ⟨path, hpath, hmid⟩, hrest⟩
      refine ⟨path, hpath, ?_⟩
      rw [sequenceRests, ih]
      exact ⟨mid, by simpa using hmid, hrest⟩
    · rintro ⟨path, hpath, hrest⟩
      rw [sequenceRests, ih] at hrest
      obtain ⟨mid, hmid, hrest⟩ := hrest
      exact ⟨mid, ⟨path, hpath, by simpa using hmid⟩, hrest⟩

theorem mem_sequenceRests_cons :
    rest ∈ sequenceRests w (p :: ps) [path] ↔
      ∃ mid ∈ p.rests w path, rest ∈ sequenceRests w ps [mid] := by
  rw [sequenceRests, mem_sequenceRests_iff]
  simp

/-! ## Parts within a name -/

mutual

/-- Whether a part stands for no text with a slash. -/
def Part.isConfined (w : Wildcards) : Part → Bool
  | .plain c => c != '/'
  | .any | .star => !w.admits slash
  | .leading | .trailing | .between => false
  | .oneOf negated ranges => !classContains negated ranges slash
  | .alternatives branches => areConfined w branches

/-- Whether parts one after the other stand for no text with a slash. -/
def isConfinedSequence (w : Wildcards) : List Part → Bool
  | [] => true
  | p :: ps => p.isConfined w && isConfinedSequence w ps

/-- Whether no branch stands for a text with a slash. -/
def areConfined (w : Wildcards) : List (List Part) → Bool
  | [] => true
  | b :: bs => isConfinedSequence w b && areConfined w bs

end

/-- The rest is what is left of the path after some bytes without a slash. -/
def LeftInName (path rest : List UInt8) : Prop := ∃ taken, path = taken ++ rest ∧ slash ∉ taken

@[simp] theorem LeftInName.refl (path : List UInt8) : LeftInName path path := ⟨[], rfl, by simp⟩

theorem LeftInName.trans {mid : List UInt8} (h : LeftInName path mid) (h' : LeftInName mid rest) :
    LeftInName path rest := by
  obtain ⟨m, rfl, hm⟩ := h
  obtain ⟨n, rfl, hn⟩ := h'
  exact ⟨m ++ n, by simp, by simp [hm, hn]⟩

@[grind ←] theorem LeftInName.cons {x : UInt8} (hx : x ≠ slash) : LeftInName (x :: rest) rest :=
  ⟨[x], rfl, by simpa using hx.symm⟩

/-- Only the slash itself has the byte of a slash in its encoding. -/
@[simp] theorem slash_notMem_charBytes {c : Char} (hc : c ≠ '/') : slash ∉ charBytes c := by
  rw [charBytes, mem_utf8EncodeChar_iff (by decide)]
  rwa [ne_eq, ← Char.val_inj, ← UInt32.toNat_inj] at hc

/-- What is left after a part that takes one byte. -/
theorem leftInName_one {takes : UInt8 → Bool} (hs : takes slash = false)
    (h : rest ∈ match (motive := List UInt8 → List (List UInt8)) path with
      | [] => []
      | x :: path => if takes x then [path] else []) : LeftInName path rest := by
  cases path with
  | nil => simp at h
  | cons x path =>
    change rest ∈ if takes x then [path] else [] at h
    split at h
    · next hx =>
      obtain rfl := List.mem_singleton.1 h
      exact .cons fun he => by simp [he, hs] at hx
    · simp at h

theorem leftInName_restsAfterMany {admits : UInt8 → Bool} (hs : admits slash = false)
    (h : rest ∈ restsAfterMany admits path) : LeftInName path rest := by
  induction path with
  | nil =>
    simp only [restsAfterMany, List.mem_singleton] at h
    exact h ▸ .refl _
  | cons x path ih =>
    simp only [restsAfterMany, List.mem_cons] at h
    rcases h with rfl | h
    · exact .refl _
    · split at h
      · next hx => exact (LeftInName.cons fun he => by simp [he, hs] at hx).trans (ih h)
      · simp at h

mutual

/-- A part that does not cross slashes leaves the path within the name it began in. -/
theorem leftInName_rests {p : Part} {path rest : List UInt8} (hp : p.isConfined w)
    (h : rest ∈ p.rests w path) : LeftInName path rest := by
  cases p with
  | plain c =>
    rw [Part.rests, after?] at h
    split at h
    · next hpre =>
      obtain ⟨t, rfl⟩ := List.isPrefixOf_iff_prefix.1 hpre
      rw [List.drop_left, List.mem_singleton] at h
      exact ⟨charBytes c, by rw [h], slash_notMem_charBytes (by simpa [Part.isConfined] using hp)⟩
    · simp at h
  | any => exact leftInName_one (by simpa [Part.isConfined] using hp) h
  | star => exact leftInName_restsAfterMany (by simpa [Part.isConfined] using hp) h
  | leading | trailing | between => simp [Part.isConfined] at hp
  | oneOf negated ranges => exact leftInName_one (by simpa [Part.isConfined] using hp) h
  | alternatives branches =>
    rw [Part.rests] at h
    split at h
    · rw [List.mem_singleton] at h
      exact h ▸ .refl _
    · exact leftInName_branchRests (by simpa [Part.isConfined] using hp) h

theorem leftInName_branchRests {bs : List (List Part)} {path rest : List UInt8}
    (hbs : areConfined w bs) (h : rest ∈ branchRests w bs path) : LeftInName path rest := by
  cases bs with
  | nil => simp [branchRests] at h
  | cons b bs =>
    rw [areConfined, Bool.and_eq_true] at hbs
    rw [branchRests, List.mem_append] at h
    rcases h with h | h
    · split at h
      · simp at h
      · exact leftInName_sequenceRests hbs.1 h
    · exact leftInName_branchRests hbs.2 h

/-- Confined parts take no slash from a path. -/
theorem leftInName_sequenceRests {ps : List Part} {path rest : List UInt8}
    (hps : isConfinedSequence w ps) (h : rest ∈ sequenceRests w ps [path]) :
    LeftInName path rest := by
  cases ps with
  | nil =>
    rw [sequenceRests, List.mem_singleton] at h
    exact h ▸ .refl _
  | cons p ps =>
    rw [isConfinedSequence, Bool.and_eq_true] at hps
    obtain ⟨mid, hmid, h⟩ := mem_sequenceRests_cons.1 h
    exact (leftInName_rests hps.1 hmid).trans (leftInName_sequenceRests hps.2 h)

end

/-! ## Wildcards at the start -/

/-- Whether a part may stand for any beginning of a path. -/
def Part.isReaching : Part → Bool
  | .star | .leading => true
  | _ => false

@[simp] theorem self_mem_restsAfterMany (admits : UInt8 → Bool) (path : List UInt8) :
    path ∈ restsAfterMany admits path := by
  cases path <;> simp [restsAfterMany]

theorem mem_restsAfterMany_append {admits : UInt8 → Bool} {outer : List UInt8}
    (h : rest ∈ restsAfterMany admits (outer ++ path)) :
    (∃ outer', rest = outer' ++ path) ∨ rest ∈ restsAfterMany admits path := by
  induction outer with
  | nil => exact .inr h
  | cons x outer ih =>
    rw [List.cons_append, restsAfterMany, List.mem_cons] at h
    rcases h with rfl | h
    · exact .inl ⟨x :: outer, rfl⟩
    · split at h
      · exact ih h
      · simp at h

theorem mem_restsAfterSlash_append {outer : List UInt8}
    (h : rest ∈ restsAfterSlash (outer ++ path)) :
    (∃ outer', rest = outer' ++ path) ∨ rest ∈ restsAfterSlash path := by
  induction outer with
  | nil => exact .inr h
  | cons x outer ih =>
    rw [List.cons_append, restsAfterSlash] at h
    split at h
    · rcases List.mem_cons.1 h with rfl | h
      · exact .inl ⟨outer, rfl⟩
      · exact ih h
    · exact ih h

/-- A wildcard at the start leaves a path that goes on from the slash, or what it leaves of the path
after the slash. -/
theorem mem_rests_of_isReaching (hp : p.isReaching) {outer : List UInt8}
    (h : rest ∈ p.rests w (outer ++ slash :: path)) :
    (∃ outer', rest = outer' ++ slash :: path) ∨ rest ∈ p.rests w path := by
  cases p with
  | star =>
    rcases mem_restsAfterMany_append h with h | h
    · exact .inl h
    · rw [restsAfterMany, List.mem_cons] at h
      rcases h with rfl | h
      · exact .inl ⟨[], rfl⟩
      · split at h
        · exact .inr h
        · simp at h
  | leading =>
    rw [Part.rests, List.mem_cons] at h
    rcases h with rfl | h
    · exact .inl ⟨outer, rfl⟩
    · refine (mem_restsAfterSlash_append h).imp_right fun h => ?_
      simpa [restsAfterSlash, Part.rests] using h
  | _ => simp [Part.isReaching] at hp

/-- A part that reaches across directories may also take nothing at all. -/
@[grind ←] theorem self_mem_rests_of_isReaching (hp : p.isReaching) : path ∈ p.rests w path := by
  cases p with
  | star => exact self_mem_restsAfterMany _ path
  | leading => simp [Part.rests]
  | _ => simp [Part.isReaching] at hp

/-- If all but the wildcards at the start stand for no slash, what matches a path after a slash
matches the path as well. -/
theorem matched_after_slash (hps : isConfinedSequence w (ps.dropWhile Part.isReaching))
    {outer : List UInt8} (h : [] ∈ sequenceRests w ps [outer ++ slash :: path]) :
    [] ∈ sequenceRests w ps [path] := by
  induction ps generalizing outer with
  | nil => simp [sequenceRests] at h
  | cons p ps ih =>
    by_cases hp : p.isReaching
    · rw [List.dropWhile_cons_of_pos hp] at hps
      obtain ⟨mid, hmid, h⟩ := mem_sequenceRests_cons.1 h
      rw [mem_sequenceRests_cons]
      rcases mem_rests_of_isReaching hp hmid with ⟨outer', rfl⟩ | hmid
      · exact ⟨path, self_mem_rests_of_isReaching hp, ih hps h⟩
      · exact ⟨mid, hmid, h⟩
    · rw [List.dropWhile_cons_of_neg hp] at hps
      obtain ⟨taken, htaken, hslash⟩ := leftInName_sequenceRests hps h
      rw [List.append_nil] at htaken
      exact absurd (by simp [← htaken]) hslash

/-! ## Parts that begin inside of a name -/

mutual

/-- Whether a part matches no path that starts with a slash. -/
def Part.opensInside : Part → Bool
  | .plain c => c != '/'
  | .oneOf negated ranges => !classContains negated ranges slash
  | .alternatives branches => !areVoid branches && openInside branches
  | .any | .star | .leading | .trailing | .between => false

/-- Whether the first of several parts matches no path that starts with a slash. -/
def opensInsideSequence : List Part → Bool
  | [] => false
  | p :: _ => p.opensInside

/-- Whether no branch that is not void matches a path that starts with a slash. -/
def openInside : List (List Part) → Bool
  | [] => true
  | b :: bs => (isVoidSequence b || opensInsideSequence b) && openInside bs

end

@[simp, grind =] theorem sequenceRests_nil : sequenceRests w ps [] = [] := by
  rw [List.eq_nil_iff_forall_not_mem]
  intro rest h
  simpa using mem_sequenceRests_iff.1 h

mutual

/-- A part that opens inside a name never matches where a slash comes first. -/
@[simp] theorem rests_slash {p : Part} (hp : p.opensInside) (path : List UInt8) :
    p.rests w (slash :: path) = [] := by
  cases p with
  | plain c =>
    have hslash : slash ∉ charBytes c :=
      slash_notMem_charBytes (by simpa [Part.opensInside] using hp)
    rw [Part.rests, after?, if_neg]
    rw [List.isPrefixOf_iff_prefix]
    rintro ⟨t, ht⟩
    cases hc : charBytes c with
    | nil => exact absurd hc String.utf8EncodeChar_ne_nil
    | cons x bytes =>
      rw [hc, List.cons_append, List.cons.injEq] at ht
      exact hslash (by rw [hc, ht.1]; exact List.mem_cons_self)
  | oneOf negated ranges =>
    simp only [Part.rests, ite_eq_right_iff]
    intro h
    simp [Part.opensInside, h] at hp
  | alternatives branches =>
    simp only [Part.opensInside, Bool.and_eq_true, Bool.not_eq_true'] at hp
    rw [Part.rests, hp.1, if_neg Bool.false_ne_true, branchRests_slash hp.2]
  | any | star | leading | trailing | between => simp [Part.opensInside] at hp

@[simp]
theorem branchRests_slash {bs : List (List Part)} (hbs : openInside bs) (path : List UInt8) :
    branchRests w bs (slash :: path) = [] := by
  cases bs with
  | nil => rfl
  | cons b bs =>
    simp only [openInside, Bool.and_eq_true, Bool.or_eq_true] at hbs
    rw [branchRests, branchRests_slash hbs.2, List.append_nil]
    split
    · rfl
    · next hb => exact sequenceRests_slash (hbs.1.resolve_left hb) path

@[simp]
theorem sequenceRests_slash {ps : List Part} (hps : opensInsideSequence ps) (path : List UInt8) :
    sequenceRests w ps [slash :: path] = [] := by
  cases ps with
  | nil => simp [opensInsideSequence] at hps
  | cons p ps =>
    rw [sequenceRests, List.flatMap_singleton, rests_slash hps, List.eraseDups_nil,
      sequenceRests_nil]

end

end Glob

/-- Whether the pattern begins with what stands for no slash, or stands for slashes only in
wildcards at its start. -/
def Glob.isPortable (g : Glob) : Bool :=
  opensInsideSequence g.parts ||
    isConfinedSequence g.wildcards (g.parts.dropWhile Part.isReaching)

theorem Glob.accepts_iff {g : Glob} {path : String} :
    g.accepts path ↔
      g.parts = [.leading] ∨ [] ∈ sequenceRests g.wildcards g.parts [Utf8.encode path] := by
  rw [accepts]
  split
  · next h => simp [h]
  · next h => simpa using fun hg => (h hg).elim

@[simp] theorem Utf8.encode_append (a b : String) : encode (a ++ b) = encode a ++ encode b := by
  simp [encode]

theorem Utf8.encode_slash_append (a : String) : encode ("/" ++ a) = Glob.slash :: encode a := by
  rw [encode_append]
  rfl

/-- A portable pattern that matches an absolute path matches the path from a directory on the way
as well. -/
theorem Glob.accepts_of_isPortable {g : Glob} (hg : g.isPortable) {outer relative : String}
    (hroot : ∃ path, outer ++ "/" ++ relative = "/" ++ path)
    (h : g.accepts (outer ++ "/" ++ relative)) : g.accepts relative := by
  have hencode : Utf8.encode (outer ++ "/" ++ relative) =
      Utf8.encode outer ++ slash :: Utf8.encode relative := by
    rw [String.append_assoc, Utf8.encode_append, Utf8.encode_slash_append]
  rw [accepts_iff] at h ⊢
  refine h.imp_right fun h => ?_
  rw [isPortable, Bool.or_eq_true] at hg
  rcases hg with hg | hg
  · obtain ⟨path, hpath⟩ := hroot
    rw [hpath, Utf8.encode_slash_append, sequenceRests_slash hg] at h
    simp at h
  · exact matched_after_slash hg (hencode ▸ h)

end Lookalike
