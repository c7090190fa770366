import Lookalike.Proofs.Layout

/-!
# Neighborhoods of collisions

The neighborhood of a k-gram goes a distance `w` to either side. Reckoned in words, its bounds
saturate instead of wrapping, and are cut off at the end of the list; so even for the greatest
distance they are in order and within the list, with the k-gram between them. Both k-grams of a
collision are therefore in the lists that are aligned, and something is aligned.

## Main definitions

* `neighborhoodBounds`, `between?` — a neighborhood as a slice with bounds reckoned in words.
* `KGram.Near` — a k-gram is at most a distance away from another one.

## Main statements

* `between?_neighborhoodBounds` — the bounds are good, and the slice is the neighborhood.
* `collisions_aligned` — no collision is lost in the alignment.
-/

namespace Lookalike

/-- The sum of two words, or the greatest word if the sum does not fit into one. -/
def addSaturated (a b : Nat) : Nat := min (a + b) (sizeBound - 1)

/-- Where the neighborhood of a position starts and stops in a list of `n` entries. -/
def neighborhoodBounds (n position w : Nat) : Nat × Nat :=
  (min (position - w) n, min (addSaturated (addSaturated position w) 1) n)

/-- The entries from one bound up to another, if the bounds are in order and within the list. -/
def between? {α : Type} (xs : List α) (bounds : Nat × Nat) : Option (List α) :=
  if bounds.1 ≤ bounds.2 ∧ bounds.2 ≤ xs.length then some ((xs.take bounds.2).drop bounds.1)
  else none

def alignChecked? (c : Collision) (sources targets : List KGram) (w : Nat) : Option Alignment := do
  let left ← between? sources (neighborhoodBounds sources.length c.source.position w)
  let right ← between? targets (neighborhoodBounds targets.length c.target.position w)
  return longestCommon left right

/-- The k-gram is in the list, at most `w` places away from another one. -/
structure KGram.Near (gs : List KGram) (w : Nat) (c g : KGram) : Prop where
  getElem? : gs[g.position]? = some g
  le_add : g.position ≤ c.position + w
  add_le : c.position ≤ g.position + w

section Slices

variable {gs sources targets : List KGram} {c : Collision} {p w : Nat}

/-- The bounds of a neighborhood are a range inside the list, also where the center is near an
end. -/
theorem neighborhoodBounds_le (hp : p < sizeBound) (n w : Nat) :
    (neighborhoodBounds n p w).1 ≤ (neighborhoodBounds n p w).2 ∧
      (neighborhoodBounds n p w).2 ≤ n := by
  unfold neighborhoodBounds addSaturated
  omega

/-- The neighborhood is the slice between bounds that are reckoned in words. -/
theorem between?_neighborhoodBounds (hlen : gs.length < sizeBound) (hp : p < sizeBound) (w : Nat) :
    between? gs (neighborhoodBounds gs.length p w) = some (neighborhood gs p w) := by
  rw [between?, if_pos (neighborhoodBounds_le hp gs.length w)]
  have hstop : min (neighborhoodBounds gs.length p w).2 gs.length = min (p + w + 1) gs.length := by
    unfold neighborhoodBounds addSaturated
    omega
  have htake : gs.take (neighborhoodBounds gs.length p w).2 = gs.take (p + w + 1) :=
    List.take_eq_take_iff.2 hstop
  rw [htake, neighborhood, neighborhoodBounds]
  rcases le_total (p - w) gs.length with hle | hge
  · rw [min_eq_left hle]
  · -- Behind the end of the list both slices are empty.
    rw [min_eq_right hge, List.drop_eq_nil_of_le (List.length_take_le' _ _),
      List.drop_eq_nil_of_le ((List.length_take_le' _ _).trans hge)]

/-- Within 64 bits the checked alignment computes the alignment around the collision. -/
theorem alignChecked?_eq (hs : sources.length < sizeBound) (ht : targets.length < sizeBound)
    (hcs : c.source.position < sources.length) (hct : c.target.position < targets.length) :
    alignChecked? c sources targets w = some (alignAround c sources targets w) := by
  rw [alignChecked?, between?_neighborhoodBounds hs (hcs.trans hs),
    between?_neighborhoodBounds ht (hct.trans ht)]
  rfl

end Slices

section Near

variable {gs sources targets : List KGram} {g : KGram} {c : Collision} {w : Nat}

theorem Numbered.near_of_mem_neighborhood (h : Numbered gs) {center : KGram}
    (hg : g ∈ neighborhood gs center.position w) : center.Near gs w g := by
  obtain ⟨i, hi⟩ := List.mem_iff_getElem?.1 hg
  rw [neighborhood, List.getElem?_drop, List.getElem?_take] at hi
  split_ifs at hi with hlt
  have hposition := h.position hi
  exact ⟨hposition ▸ hi, by omega, by omega⟩

/-- Both sides of an alignment keep within the radius of the collision it was made around. -/
theorem near_of_mem_alignAround (hs : Numbered sources) (ht : Numbered targets) :
    (∀ g ∈ (alignAround c sources targets w).source, KGram.Near sources w c.source g) ∧
      ∀ g ∈ (alignAround c sources targets w).target, KGram.Near targets w c.target g := by
  constructor
  · intro g hg
    obtain ⟨p, hp, rfl⟩ := List.mem_map.1 hg
    exact hs.near_of_mem_neighborhood (mem_of_mem_longestCommon hp).1
  · intro g hg
    obtain ⟨p, hp, rfl⟩ := List.mem_map.1 hg
    exact ht.near_of_mem_neighborhood (mem_of_mem_longestCommon hp).2

end Near

/-- Something is aligned around every collision, whatever the sizes with which the files were
indexed and are compared: as many k-grams of one file as of the other, all of them near the
collision. Slices whose bounds are reckoned in words give the same alignment. So there is a region
exactly if the files share a hash. -/
theorem collisions_aligned (x y : Lexed) (ox oy options : Options) (m n : Option String) :
    let first := Index.ofLexed ox x
    let second := Index.ofLexed oy y
    (∀ c ∈ (first.overlap second).collisions options.pairing,
      let aligned := alignAround c first.kgrams second.kgrams options.w
      aligned.source ≠ [] ∧ aligned.source.length = aligned.target.length ∧
        (∀ g ∈ aligned.source, KGram.Near first.kgrams options.w c.source g) ∧
        (∀ g ∈ aligned.target, KGram.Near second.kgrams options.w c.target g) ∧
        (first.kgrams.length < sizeBound → second.kgrams.length < sizeBound →
          alignChecked? c first.kgrams second.kgrams options.w = some aligned)) ∧
      ((compareIndexed first second m n options).regions ≠ [] ↔
        0 < (first.overlap second).commonHashes) := by
  intro first second
  have hx : first.Sound := Index.sound_ofLexed ox x
  have hy : second.Sound := Index.sound_ofLexed oy y
  refine ⟨fun c hc => ?_, ?_⟩
  · intro aligned
    obtain ⟨hs, ht, hh⟩ := Overlap.mem_of_mem_collisions hc
    have hcs := hx.mem_kgrams _ hs
    have hct := hy.mem_kgrams _ ht
    have hne : aligned.pairs ≠ [] := alignAround_ne_nil hx.numbered hy.numbered hcs hct hh
    obtain ⟨hsource, htarget⟩ := @near_of_mem_alignAround first.kgrams second.kgrams c options.w
      hx.numbered hy.numbered
    refine ⟨?_, ?_, hsource, htarget, fun hs ht => ?_⟩
    · simpa [Alignment.source] using hne
    · simp [Alignment.source, Alignment.target]
    · exact alignChecked?_eq hs ht (hx.numbered.position_lt hcs) (hy.numbered.position_lt hct)
  · rw [Nat.pos_iff_ne_zero]
    exact not_congr (regions_eq_nil_iff hx hy m n options)

/-- The names of two copies collide, and for the greatest distance there is all to be aligned. -/
theorem collisions_aligned_threeLines :
    let first := Index.ofLexed ⟨1, 1, .crossProduct⟩ oneLine
    let second := Index.ofLexed ⟨1, 1, .crossProduct⟩ threeLines
    let c : Collision := ⟨⟨1, 0, ⟨⟨1, 1⟩, ⟨1, 2⟩⟩⟩, ⟨1, 0, ⟨⟨1, 1⟩, ⟨1, 7⟩⟩⟩⟩
    c ∈ (first.overlap second).collisions .crossProduct ∧
      (alignAround c first.kgrams second.kgrams (sizeBound - 1)).source.length = 3 ∧
      alignChecked? c first.kgrams second.kgrams (sizeBound - 1) =
        some (alignAround c first.kgrams second.kgrams (sizeBound - 1)) := by
  intro first second c
  have hc : c ∈ (first.overlap second).collisions .crossProduct := by decide +kernel
  obtain ⟨hall, -⟩ := collisions_aligned oneLine threeLines ⟨1, 1, .crossProduct⟩
    ⟨1, 1, .crossProduct⟩ ⟨1, sizeBound - 1, .crossProduct⟩ none none
  obtain ⟨-, -, -, -, hslices⟩ := hall c hc
  exact ⟨hc, by decide +kernel, hslices (by decide +kernel) (by decide +kernel)⟩

end Lookalike
