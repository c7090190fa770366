import Lookalike.Proofs.Span.Within
import Lookalike.Proofs.Text.LineTable
import Mathlib.Order.Monotone.Basic

/-!
# Spans of byte ranges

A span between the positions of two byte offsets stands for the bytes between them: two such spans
overlap if and only if the ranges share a byte, and their cover is the span of the smallest range
that holds both.

## Main definitions

* `Span.ofOffsets` — the span between two offsets.

## Main statements

* `spans_of_byte_ranges` — positions, overlap and covers in terms of bytes.
-/

namespace Lookalike

namespace Span

variable {source : List Char} {a b c d : Nat}

/-- The span from one byte offset to another. -/
def ofOffsets (source : List Char) (a b : Nat) : Span :=
  ⟨.ofOffset source a, .ofOffset source b⟩

section Ranges

variable (hsize : byteLength source < 2 ^ 32 - 1) (ha : IsBoundary source a)
  (hb : IsBoundary source b) (hc : IsBoundary source c) (hd : IsBoundary source d)

include hsize ha hb hc hd

/-- The spans of two byte ranges that are not empty overlap exactly when the ranges share an
offset. -/
theorem ofOffsets_overlaps (hab : a < b) (hcd : c < d) :
    (ofOffsets source a b).Overlaps (ofOffsets source c d) ↔
      ∃ x, (a ≤ x ∧ x < b) ∧ c ≤ x ∧ x < d := by
  have hmono := Position.strictMonoOn_ofOffset hsize
  rw [overlaps_iff_of_lt (hmono ha hb hab) (hmono hc hd hcd)]
  simp only [ofOffsets, hmono.lt_iff_lt ha hd, hmono.lt_iff_lt hc hb]
  constructor
  · intro h
    exact ⟨max a c, by omega⟩
  · rintro ⟨x, hx⟩
    omega

theorem ofOffsets_cover :
    (ofOffsets source a b).cover (ofOffsets source c d) =
      ofOffsets source (min a c) (max b d) := by
  have hmono := (Position.strictMonoOn_ofOffset hsize).monotoneOn
  simp only [ofOffsets, cover, hmono.map_min ha hc, hmono.map_max hb hd]

end Ranges

end Span

/-- The table of lines gives the position of every offset. In a text of less than `2 ^ 32 - 1`
bytes, the position of an offset that cuts no character counts the line feeds among the bytes before
it and the characters after the last of them, and later offsets have later positions. So the spans
of two byte ranges that are not empty overlap if and only if the ranges share a byte, and their
cover is the span of the smallest range that holds both. -/
theorem spans_of_byte_ranges (source : String) (hsize : source.utf8ByteSize < 2 ^ 32 - 1) :
    (∀ offset, Position.lookUp? source.toList offset =
        some (Position.ofOffset source.toList offset)) ∧
      (∀ before after, source.toList = before ++ after →
        Position.ofOffset source.toList (byteLength before) =
          ⟨1 + ((Utf8.encode source).take (byteLength before)).count 10,
            1 + (Position.lastLine before).length⟩) ∧
      (∀ p q, IsBoundary source.toList p → IsBoundary source.toList q → p < q →
        Position.ofOffset source.toList p < Position.ofOffset source.toList q) ∧
      ∀ a b c d, IsBoundary source.toList a → IsBoundary source.toList b →
        IsBoundary source.toList c → IsBoundary source.toList d → a < b → c < d →
        let s := Span.ofOffsets source.toList a b
        let t := Span.ofOffsets source.toList c d
        (s.Overlaps t ↔ ∃ x, (a ≤ x ∧ x < b) ∧ c ≤ x ∧ x < d) ∧ (t.Overlaps s ↔ s.Overlaps t) ∧
          s.cover t = Span.ofOffsets source.toList (min a c) (max b d) := by
  rw [← byteLength_toList] at hsize
  refine ⟨Position.lookUp?_eq source.toList, fun before after h => ?_,
    fun p q hp hq => Position.strictMonoOn_ofOffset hsize hp hq,
    fun a b c d ha hb hc hd hab hcd => ⟨?_, Span.overlaps_comm, ?_⟩⟩
  · have hbytes : (Utf8.encode source).take (byteLength before) =
        before.flatMap String.utf8EncodeChar := by
      rw [Utf8.encode, h, List.flatMap_append, ← length_flatMap_utf8EncodeChar, List.take_left]
    rw [hbytes, count_flatMap_utf8EncodeChar, h, Position.ofOffset_append (h ▸ hsize)]
    rfl
  · exact Span.ofOffsets_overlaps hsize ha hb hc hd hab hcd
  · exact Span.ofOffsets_cover hsize ha hb hc hd

/-- Ranges over two lines that begin with characters of more than one byte. -/
theorem spans_of_byte_ranges_twoLines :
    let source := "é = 1\n€ = x\n"
    source.utf8ByteSize < 2 ^ 32 - 1 ∧ Position.ofOffset source.toList 10 = ⟨2, 2⟩ ∧
      Position.lookUp? source.toList 10 = some ⟨2, 2⟩ ∧
      (Span.ofOffsets source.toList 0 6).Overlaps (Span.ofOffsets source.toList 5 10) ∧
      ¬ (Span.ofOffsets source.toList 7 10).Overlaps (Span.ofOffsets source.toList 0 7) := by
  intro source
  have hsize : source.utf8ByteSize < 2 ^ 32 - 1 := by decide
  obtain ⟨htable, hposition, -, hspans⟩ := spans_of_byte_ranges source hsize
  have hover := hspans 0 6 5 10 (by decide) (by decide) (by decide) (by decide) (by decide)
    (by decide)
  have hapart := hspans 7 10 0 7 (by decide) (by decide) (by decide) (by decide) (by decide)
    (by decide)
  have hbehind := hposition ['é', ' ', '=', ' ', '1', '\n', '€'] [' ', '=', ' ', 'x', '\n']
    (by decide)
  have hten : Position.ofOffset source.toList 10 = ⟨2, 2⟩ := hbehind.trans (by decide)
  refine ⟨hsize, hten, (htable 10).trans (congrArg some hten), hover.1.2 ⟨5, by omega⟩,
    fun h => ?_⟩
  obtain ⟨x, hx⟩ := hapart.1.1 h
  omega

end Lookalike
