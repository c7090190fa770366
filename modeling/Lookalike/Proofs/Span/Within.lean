import Lookalike.Proofs.Span.Merge
import Mathlib.Data.List.Pairwise

/-!
# Spans within merged spans

Every span lies within one of the merged spans, and these start and stop where given spans do. If
each span of a sequence overlaps the next one, one merged span holds them all.

## Main definitions

* `Span.Within` — a span lies within another.

## Main statements

* `exists_mem_mergeSpans_within` — every span lies within a merged one.
* `exists_mem_mergeSpans_forall_within` — a sequence of overlapping spans lies within one.
* `mergeSpans_eq_singleton` — when there is only one merged span.
-/

namespace Lookalike

namespace Span

/-- The span starts no earlier and stops no later than the other. -/
def Within (a b : Span) : Prop := b.start ≤ a.start ∧ a.stop ≤ b.stop

variable {a b c d : Span}

instance (a b : Span) : Decidable (a.Within b) := inferInstanceAs (Decidable (_ ∧ _))

instance : Std.Refl Within where
  refl _ := ⟨le_rfl, le_rfl⟩

instance : IsTrans Span Within where
  trans _ _ _ hab hbc := ⟨hbc.1.trans hab.1, hab.2.trans hbc.2⟩

@[simp] theorem within_cover_left (a b : Span) : a.Within (a.cover b) :=
  ⟨min_le_left _ _, le_max_left _ _⟩

@[simp] theorem within_cover_right (a b : Span) : b.Within (a.cover b) :=
  ⟨min_le_right _ _, le_max_right _ _⟩

theorem Within.start_lt_stop (h : a.Within b) (ha : a.start < a.stop) : b.start < b.stop :=
  (h.1.trans_lt ha).trans_le h.2

/-- Two spans that are not empty overlap if each starts before the other stops. -/
theorem overlaps_iff_of_lt (ha : a.start < a.stop) (hb : b.start < b.stop) :
    a.Overlaps b ↔ a.start < b.stop ∧ b.start < a.stop := by
  have hlt {a b : Span} (hab : a ≤ b) (hb : b.start < b.stop) : a.start < b.stop :=
    (start_le_start hab).trans_lt hb
  rw [Overlaps]
  split_ifs with hab
  · exact ⟨fun h => ⟨hlt hab hb, h⟩, And.right⟩
  · exact ⟨fun h => ⟨h, hlt (le_of_not_ge hab) ha⟩, And.left⟩

/-- Spans that hold overlapping spans overlap too, unless those are empty. -/
theorem Within.overlaps (hac : a.Within c) (hbd : b.Within d) (ha : a.start < a.stop)
    (hb : b.start < b.stop) (h : a.Overlaps b) : c.Overlaps d := by
  rw [overlaps_iff_of_lt ha hb] at h
  rw [overlaps_iff_of_lt (hac.start_lt_stop ha) (hbd.start_lt_stop hb)]
  exact ⟨(hac.1.trans_lt h.1).trans_le hbd.2, (hbd.1.trans_lt h.2).trans_le hac.2⟩

end Span

section Merge

variable {ss : List Span} {o o' s : Span}

/-- Every span lies within a merged one. -/
theorem exists_mem_mergeSpans_within (hs : s ∈ ss) : ∃ o ∈ mergeSpans ss, s.Within o := by
  simpa using Fuse.exists_mem_of_mem Span.within_cover_left Span.within_cover_right
    (mergeSpans_fuses ss) hs

/-- Merged spans start and stop where given spans do. -/
theorem exists_bounds_of_mem_mergeSpans :
    ∀ o ∈ mergeSpans ss, (∃ s ∈ ss, s.start = o.start) ∧ ∃ s ∈ ss, s.stop = o.stop := by
  refine Fuse.forall_mem (fun {a b} ha hb => ?_) (mergeSpans_fuses ss) fun s hs =>
    ⟨⟨s, hs, rfl⟩, ⟨s, hs, rfl⟩⟩
  rw [Span.cover]
  constructor
  · rcases min_choice a.start b.start with h | h
    · exact h.symm ▸ ha.1
    · exact h.symm ▸ hb.1
  · rcases max_choice a.stop b.stop with h | h
    · exact h.symm ▸ ha.2
    · exact h.symm ▸ hb.2

/-- Merged spans that overlap are one and the same. -/
theorem eq_of_mem_mergeSpans (ho : o ∈ mergeSpans ss) (ho' : o' ∈ mergeSpans ss)
    (h : o.Overlaps o') : o = o' := by
  have : Std.Symm fun a b : Span => ¬ a.Overlaps b := ⟨fun _ _ h => mt Span.overlaps_comm.1 h⟩
  by_contra hne
  exact ((pairwise_mergeSpans ss).imp And.right).forall ho ho' hne h

/-- A sequence of spans of which each overlaps the next one lies within one merged span. -/
theorem exists_mem_mergeSpans_forall_within {fs : List Span} (hne : fs ≠ [])
    (hfs : ∀ f ∈ fs, f ∈ ss ∧ f.start < f.stop) (hc : fs.IsChain Span.Overlaps) :
    ∃ o ∈ mergeSpans ss, ∀ f ∈ fs, f.Within o := by
  induction hc with
  | nil => contradiction
  | singleton a => simpa using exists_mem_mergeSpans_within (hfs a List.mem_cons_self).1
  | @cons_cons a b fs hab _ ih =>
    rw [List.forall_mem_cons] at hfs
    obtain ⟨o, ho, hw⟩ := ih (List.cons_ne_nil _ _) hfs.2
    obtain ⟨o', ho', hw'⟩ := exists_mem_mergeSpans_within hfs.1.1
    have heq : o' = o := eq_of_mem_mergeSpans ho' ho (hw'.overlaps (hw b List.mem_cons_self)
      hfs.1.2 (hfs.2 b List.mem_cons_self).2 hab)
    exact ⟨o, ho, List.forall_mem_cons.2 ⟨heq ▸ hw', hw⟩⟩

/-- If all spans lie within one merged span and none is empty, there is no other. -/
theorem mergeSpans_eq_singleton (ho : o ∈ mergeSpans ss)
    (hss : ∀ s ∈ ss, s.start < s.stop ∧ s.Within o) : mergeSpans ss = [o] := by
  have heq : ∀ o' ∈ mergeSpans ss, o' = o := by
    intro o' ho'
    obtain ⟨⟨s, hs, hstart⟩, t, ht, hstop⟩ := exists_bounds_of_mem_mergeSpans o' ho'
    refine eq_of_mem_mergeSpans ho' ho (Span.overlaps_iff.2 ?_)
    rcases le_total o' o with hle | hle
    · exact .inl ⟨hle, hstop ▸ (hss t ht).2.1.trans_lt (hss t ht).1⟩
    · exact .inr ⟨hle, hstart ▸ (hss s hs).1.trans_le (hss s hs).2.2⟩
  obtain ⟨s, hs⟩ : ∃ s, s ∈ ss := by
    obtain ⟨⟨s, hs, -⟩, -⟩ := exists_bounds_of_mem_mergeSpans o ho
    exact ⟨s, hs⟩
  have hself : o.Overlaps o := Span.overlaps_self.2 ((hss s hs).2.start_lt_stop (hss s hs).1)
  have hp := pairwise_mergeSpans ss
  generalize mergeSpans ss = os at *
  match os with
  | [] => contradiction
  | [a] => rw [heq a List.mem_cons_self]
  | a :: b :: os =>
    have hab := (List.rel_of_pairwise_cons hp List.mem_cons_self).2
    rw [heq a (by simp), heq b (by simp)] at hab
    contradiction

end Merge

end Lookalike
