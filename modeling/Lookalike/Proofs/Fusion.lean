import Mathlib.Algebra.BigOperators.Group.Multiset.Defs
import Mathlib.Algebra.Order.Group.Multiset
import Mathlib.Logic.Relation

/-!
# Replacing pairs by their unions

A collection in which two members that meet are replaced by their union, again and again. If a
union meets what one of its parts meets, it makes no difference in which order pairs are replaced:
any two steps can be brought together again by one step each, so there is only one end.

## Main definitions

* `Fuse` — one replacement.
* `Fusible` — what is asked of meeting and of unions.

## Main statements

* `Fuse.diamond` — two different steps are brought together by one step each.
* `Fuse.unique` — there is only one end.
* `Fuse.forall_mem`, `Fuse.exists_mem_iff`, `Fuse.exists_mem_of_mem`, `Fuse.sum_map_eq` — what is
  kept on the way there.
* `Fuse.exists_map_eq` — the same replacements of what the members stand for.
-/

namespace Lookalike

open Relation

variable {α : Type}

/-- Two members that meet are replaced by their union. -/
inductive Fuse (meets : α → α → Prop) (join : α → α → α) : Multiset α → Multiset α → Prop where
  | pair {a b : α} (s : Multiset α) (h : meets a b) :
    Fuse meets join (a ::ₘ b ::ₘ s) (join a b ::ₘ s)

/-- A union meets what one of its parts meets, and unions do not depend on any order. -/
structure Fusible (meets : α → α → Prop) (join : α → α → α) : Prop where
  meets_comm : ∀ {a b}, meets a b → meets b a
  join_comm : ∀ a b, join a b = join b a
  join_assoc : ∀ a b c, join (join a b) c = join a (join b c)
  join_meets : ∀ {a b c}, meets a b → (meets (join a b) c ↔ meets a c ∨ meets b c)

namespace Fuse

variable {meets : α → α → Prop} {join : α → α → α} {s t u : Multiset α}

@[grind ←]
theorem cons (h : Fuse meets join s t) (a : α) : Fuse meets join (a ::ₘ s) (a ::ₘ t) := by
  cases h with
  | pair s h =>
    rw [Multiset.cons_swap a, Multiset.cons_swap a, Multiset.cons_swap a]
    exact .pair _ h

@[grind ←]
theorem add (h : Fuse meets join s t) (u : Multiset α) : Fuse meets join (s + u) (t + u) := by
  cases h with
  | pair s h => simpa using Fuse.pair (s + u) h

/-- The three members `a`, `b` and `c` become one, whichever pair comes first. -/
theorem diamond_shared (hl : Fusible meets join) {a b c : α} (hab : meets a b) (hac : meets a c)
    (r : Multiset α) : ∃ v, Fuse meets join (join a b ::ₘ c ::ₘ r) v ∧
      Fuse meets join (join a c ::ₘ b ::ₘ r) v := by
  have h : join (join a c) b = join (join a b) c := by
    rw [hl.join_assoc, hl.join_comm c, ← hl.join_assoc]
  exact ⟨_, .pair r ((hl.join_meets hab).2 (.inl hac)),
    h ▸ .pair r ((hl.join_meets hac).2 (.inl hab))⟩

/-- Two pairs without a common member do not disturb each other. -/
theorem diamond_apart {a b c d : α} (hab : meets a b) (hcd : meets c d) (r : Multiset α) :
    ∃ v, Fuse meets join (join a b ::ₘ c ::ₘ d ::ₘ r) v ∧
      Fuse meets join (join c d ::ₘ a ::ₘ b ::ₘ r) v := by
  refine ⟨join a b ::ₘ join c d ::ₘ r, (Fuse.pair r hcd).cons _, ?_⟩
  rw [Multiset.cons_swap (join a b), Multiset.cons_swap (join c d) a,
    Multiset.cons_swap (join c d) b, Multiset.cons_swap (join c d)]
  exact .pair _ hab

/-- Two ways to fuse two elements of one multiset either agree or can each be followed by one more
step to a common result. -/
theorem diamond (hl : Fusible meets join) (ht : Fuse meets join s t) (hu : Fuse meets join s u) :
    t = u ∨ ∃ v, Fuse meets join t v ∧ Fuse meets join u v := by
  obtain ⟨r, hab⟩ := ht
  generalize hs : _ ::ₘ _ = s' at hu
  obtain ⟨q, hcd⟩ := hu
  rename_i a b c d
  -- The pairs `a`, `b` and `c`, `d` are the same, have one member in common, or none.
  rcases Multiset.cons_eq_cons.1 hs with ⟨rfl, h⟩ | ⟨-, p, h, h'⟩
  · rcases Multiset.cons_eq_cons.1 h with ⟨rfl, rfl⟩ | ⟨-, p, rfl, rfl⟩
    · exact .inl rfl
    · exact .inr (diamond_shared hl hab hcd p)
  rcases Multiset.cons_eq_cons.1 h with ⟨rfl, rfl⟩ | ⟨-, p', rfl, rfl⟩
  · rcases Multiset.cons_eq_cons.1 h' with ⟨rfl, rfl⟩ | ⟨-, p, rfl, rfl⟩
    · exact .inl (hl.join_comm _ _ ▸ rfl)
    · rw [hl.join_comm a]
      exact .inr (diamond_shared hl (hl.meets_comm hab) hcd p)
  rcases Multiset.cons_eq_cons.1 h' with ⟨rfl, rfl⟩ | ⟨-, e, rfl, h''⟩
  · rw [hl.join_comm c]
    exact .inr (diamond_shared hl hab (hl.meets_comm hcd) p')
  rcases Multiset.cons_eq_cons.1 h'' with ⟨rfl, rfl⟩ | ⟨-, f, rfl, rfl⟩
  · rw [hl.join_comm a, hl.join_comm c]
    exact .inr (diamond_shared hl (hl.meets_comm hab) (hl.meets_comm hcd) p')
  · exact .inr (diamond_apart hab hcd f)

/-- No step leads on from members of which no two meet. -/
theorem not_of_pairwise (hl : Fusible meets join) {l : List α}
    (h : l.Pairwise fun a b => ¬ meets a b) : ¬ Fuse meets join ↑l t := by
  intro ht
  generalize hs : (l : Multiset α) = s at ht
  obtain ⟨r, hab⟩ := ht
  rename_i a b
  induction r using Quotient.inductionOn with
  | h m =>
    have hp : l.Perm (a :: b :: m) := Multiset.coe_eq_coe.1 hs
    have hw := (hp.pairwise_iff fun h h' => h (hl.meets_comm h')).1 h
    exact List.rel_of_pairwise_cons hw List.mem_cons_self hab

/-- All orders of replacement that go on until no two members meet end with the same members. -/
theorem unique (hl : Fusible meets join) {l m : List α} (hs : ReflTransGen (Fuse meets join) s ↑l)
    (hs' : ReflTransGen (Fuse meets join) s ↑m) (hp : l.Pairwise fun a b => ¬ meets a b)
    (hp' : m.Pairwise fun a b => ¬ meets a b) : l.Perm m := by
  obtain ⟨v, h, h'⟩ := church_rosser (fun _ _ _ ht hu => by
    rcases diamond hl ht hu with rfl | ⟨v, hv, hv'⟩
    · exact ⟨_, .refl, .refl⟩
    · exact ⟨v, .single hv, .single hv'⟩) hs hs'
  rcases h.cases_head with rfl | ⟨_, h, -⟩
  · rcases h'.cases_head with h' | ⟨_, h', -⟩
    · exact (Multiset.coe_eq_coe.1 h').symm
    · exact absurd h' (not_of_pairwise hl hp')
  · exact absurd h (not_of_pairwise hl hp)

/-- What is true of a union if and only if it is true of one of its parts is true of one of the
members after replacements as before them. -/
theorem exists_mem_iff {p : α → Prop} (hp : ∀ {a b}, meets a b → (p (join a b) ↔ p a ∨ p b))
    (h : ReflTransGen (Fuse meets join) s t) : (∃ a ∈ t, p a) ↔ ∃ a ∈ s, p a := by
  induction h with
  | refl => rfl
  | tail _ h ih =>
    rw [← ih]
    cases h with
    | pair s hab => simp [hp hab, or_assoc]

/-- What a member meets, a member still meets after replacements, and nothing else. -/
theorem exists_meets_iff (hl : Fusible meets join) (h : ReflTransGen (Fuse meets join) s t)
    {c : α} : (∃ a ∈ t, meets a c) ↔ ∃ a ∈ s, meets a c :=
  exists_mem_iff hl.join_meets h

/-- What unions of members that meet keep is true of all members after replacements. -/
theorem forall_mem_of_meets {p : α → Prop} (hp : ∀ {a b}, meets a b → p a → p b → p (join a b))
    (h : ReflTransGen (Fuse meets join) s t) (hs : ∀ a ∈ s, p a) : ∀ a ∈ t, p a := by
  induction h with
  | refl => exact hs
  | tail _ h ih =>
    cases h with
    | pair s hab =>
      simp only [Multiset.mem_cons, forall_eq_or_imp] at ih ⊢
      exact ⟨hp hab ih.1 ih.2.1, ih.2.2⟩

/-- What unions keep is true of all members after replacements. -/
theorem forall_mem {p : α → Prop} (hp : ∀ {a b}, p a → p b → p (join a b))
    (h : ReflTransGen (Fuse meets join) s t) (hs : ∀ a ∈ s, p a) : ∀ a ∈ t, p a :=
  forall_mem_of_meets (fun _ => hp) h hs

/-- A sum to which a union contributes as much as its parts stays the same. -/
theorem sum_map_eq {M : Type} [AddCommMonoid M] {f : α → M}
    (hf : ∀ a b, f (join a b) = f a + f b) (h : ReflTransGen (Fuse meets join) s t) :
    (t.map f).sum = (s.map f).sum := by
  induction h with
  | refl => rfl
  | tail _ h ih =>
    rw [← ih]
    cases h with
    | pair s hab => simp [hf, add_assoc]

/-- Replacements of members can be followed by those of whatever the members stand for. -/
theorem exists_map_eq {β : Type} {f : β → α} {join' : β → β → β}
    (hf : ∀ x y, f (join' x y) = join (f x) (f y)) {u : Multiset β}
    (h : ReflTransGen (Fuse meets join) (u.map f) t) :
    ∃ v, ReflTransGen (Fuse (fun x y => meets (f x) (f y)) join') u v ∧ v.map f = t := by
  classical
  induction h with
  | refl => exact ⟨u, .refl, rfl⟩
  | tail _ h ih =>
    obtain ⟨v, hv, hmap⟩ := ih
    cases h with
    | pair s hab =>
      obtain ⟨x, hx, rfl, hxs⟩ := (Multiset.map_eq_cons _ _ _ _).2 hmap
      obtain ⟨y, hy, rfl, hys⟩ := (Multiset.map_eq_cons _ _ _ _).2 hxs
      rw [← Multiset.cons_erase hx, ← Multiset.cons_erase hy] at hv
      exact ⟨_, hv.tail (.pair _ hab), by simp [hf, hys]⟩

/-- If parts are below their unions, every member is below one of the members after replacements. -/
theorem exists_mem_of_mem {r : α → α → Prop} [Std.Refl r] [IsTrans α r]
    (hl : ∀ a b, r a (join a b)) (hr : ∀ a b, r b (join a b))
    (h : ReflTransGen (Fuse meets join) s t) {a : α} (ha : a ∈ s) : ∃ b ∈ t, r a b := by
  induction h with
  | refl => exact ⟨a, ha, refl_of r a⟩
  | tail _ h ih =>
    obtain ⟨b, hb, hab⟩ := ih
    cases h with
    | @pair c d s hcd =>
      simp only [Multiset.mem_cons] at hb ⊢
      rcases hb with rfl | rfl | hb
      · exact ⟨_, .inl rfl, trans_of r hab (hl _ _)⟩
      · exact ⟨_, .inl rfl, trans_of r hab (hr _ _)⟩
      · exact ⟨b, .inr hb, hab⟩

end Fuse

end Lookalike
