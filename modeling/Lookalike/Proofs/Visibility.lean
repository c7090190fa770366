import Lookalike.Proofs.Alignment.Longest
import Lookalike.Proofs.Layout
import Lookalike.Proofs.Region.Within

/-!
# What a report shows of a collision

Around every collision a longest common subsequence of the neighborhoods is aligned, and one
region shows all of it. The collision itself need not be part of it if there are several: where two
lines come in turn, a file that starts with the one can be aligned with a file that starts with the
other in two ways.

## Main definitions

* `Region.Shows` — a region holds both k-grams of a pair.

## Main statements

* `exists_region_shows_alignment` — one region shows what is aligned around a collision.
* `collision_hidden` — a collision that is not shown.
-/

namespace Lookalike

/-- The spans of both k-grams lie within spans of the region. -/
def Region.Shows (r : Region) (p : KGram × KGram) : Prop :=
  (∃ s ∈ r.source, p.1.span.Within s) ∧ ∃ t ∈ r.target, p.2.span.Within t

instance (r : Region) (p : KGram × KGram) : Decidable (r.Shows p) :=
  inferInstanceAs (Decidable (_ ∧ _))

def Collision.pair (c : Collision) : KGram × KGram := (c.source, c.target)

section Shown

variable {x y : Index} {options : Options} {c : Collision}

/-- Every alignment around a collision lies within one of the merged regions, pair by pair. -/
theorem exists_region_shows (hx : x.Sound) (hy : y.Sound)
    (hc : c ∈ (x.overlap y).collisions options.pairing) (m n : Option String) :
    ∃ r ∈ (compareIndexed x y m n options).regions,
      ∀ p ∈ (alignAround c x.kgrams y.kgrams options.w).pairs, r.Shows p := by
  obtain ⟨r, hr, hw⟩ := exists_mem_mergeAll_within (exists_mem_alignedRegions hx hy hc)
  refine ⟨r, List.mem_mergeSort.2 hr, fun p hp => ⟨?_, ?_⟩⟩
  · exact hw.source _ (List.mem_map_of_mem (List.mem_map_of_mem hp))
  · exact hw.target _ (List.mem_map_of_mem (List.mem_map_of_mem hp))

end Shown

/-- One region shows all that is aligned around a collision, which is a longest common subsequence
of the k-grams near it. If the collision belongs to every longest one, the region shows it. -/
theorem exists_region_shows_alignment {x y : Lexed} {options : Options} {c : Collision}
    (hc : c ∈ ((Index.ofLexed options x).overlap (.ofLexed options y)).collisions options.pairing)
    (m n : Option String) :
    let first := Index.ofLexed options x
    let second := Index.ofLexed options y
    let left := neighborhood first.kgrams c.source.position options.w
    let right := neighborhood second.kgrams c.target.position options.w
    let aligned := (alignAround c first.kgrams second.kgrams options.w).pairs
    aligned ≠ [] ∧ LongestCommonSubsequence left right aligned ∧
      ∃ r ∈ (compareIndexed first second m n options).regions,
        (∀ p ∈ aligned, r.Shows p) ∧
          ((∀ ps, LongestCommonSubsequence left right ps → c.pair ∈ ps) → r.Shows c.pair) := by
  intro first second left right aligned
  have hx := Index.sound_ofLexed options x
  have hy := Index.sound_ofLexed options y
  have hlongest : LongestCommonSubsequence left right aligned := longestCommon_longest left right
  obtain ⟨hs, ht, hh⟩ := Overlap.mem_of_mem_collisions hc
  have hne : aligned ≠ [] :=
    alignAround_ne_nil hx.numbered hy.numbered (hx.mem_kgrams _ hs) (hy.mem_kgrams _ ht) hh
  obtain ⟨r, hr, hshows⟩ := exists_region_shows hx hy hc m n
  exact ⟨hne, hlongest, r, hr, hshows, fun hall => hshows _ (hall _ hlongest)⟩

/-- The names of two copies collide and are shown. -/
theorem exists_region_shows_alignment_threeLines :
    let first := Index.ofLexed ⟨1, 1, .crossProduct⟩ oneLine
    let second := Index.ofLexed ⟨1, 1, .crossProduct⟩ threeLines
    let c : Collision := ⟨⟨1, 0, ⟨⟨1, 1⟩, ⟨1, 2⟩⟩⟩, ⟨1, 0, ⟨⟨1, 1⟩, ⟨1, 7⟩⟩⟩⟩
    c ∈ (first.overlap second).collisions .crossProduct ∧
      ∃ r ∈ (compareIndexed first second none none ⟨1, 1, .crossProduct⟩).regions,
        r.Shows c.pair := by
  intro first second c
  have hc : c ∈ (first.overlap second).collisions .crossProduct := by decide +kernel
  have hhash : (neighborhood first.kgrams 0 1).map KGram.hash =
      (neighborhood second.kgrams 0 1).map KGram.hash := by
    decide +kernel
  have haligned : c.pair ∈ (alignAround c first.kgrams second.kgrams 1).pairs := by
    decide +kernel
  obtain ⟨-, hlongest, r, hr, -, hshows⟩ :=
    @exists_region_shows_alignment oneLine threeLines ⟨1, 1, .crossProduct⟩ c hc none none
  refine ⟨hc, r, hr, hshows fun ps hps => ?_⟩
  rwa [oneLongest_of_map_hash_eq hhash ps _ hps hlongest]

/-- Names and numbers in turn: the only match does not reach the first line of the first file, where
the only collision starts. -/
theorem collision_hidden :
    let first := Index.ofLexed {} (eightLines .identifier .number)
    let second := Index.ofLexed {} (eightLines .number .identifier)
    InOrder (eightLines .identifier .number).tokens ∧
      InOrder (eightLines .number .identifier).tokens ∧
      ¬ ∀ c ∈ (first.overlap second).collisions .crossProduct,
        ∃ r ∈ (compareIndexed first second none none {}).regions, r.Shows c.pair :=
  ⟨eightLines_inOrder _ _, eightLines_inOrder _ _, by decide +kernel⟩

end Lookalike
