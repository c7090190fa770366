import Lookalike.Json.Reader
import Mathlib.Tactic.SplitIfs

/-!
# Values in their surroundings

A number has no end of its own: it goes on as long as the characters fit. What closes it in a
written document is a comma or a line break. A reader is framed when a text that it takes is taken
in the same way with such a closing text behind it, which is then left over.

## Main definitions

* `Json.Closing` — the texts that may stand behind a value.
* `Json.Framed` — readers that are not disturbed by them.

## Main results

* `Json.framed_bind`, `Json.framed_peek_bind` — readers put together from framed ones.
* `Json.framed_number` — the reader of numbers is framed.
-/

namespace Lookalike.Json

variable {α β : Type} {rest : List Char}

/-- Behind a value stands nothing, a comma, or a line break. -/
def Closing (rest : List Char) : Prop := ∀ c ∈ rest.head?, c = ',' ∨ c = '\n'

@[grind →] theorem Closing.eq_nil_or_cons (h : Closing rest) :
    rest = [] ∨ ∃ c tail, rest = c :: tail ∧ (c = ',' ∨ c = '\n') := by
  cases rest with
  | nil => exact .inl rfl
  | cons c tail => exact .inr ⟨c, tail, rfl, h c rfl⟩

/-- A text that is taken is taken in the same way with a closing text behind it. -/
def Framed (r : Reader α) : Prop :=
  ∀ ⦃cs x out rest⦄, Closing rest → r.run cs = .ok (x, out) →
    r.run (cs ++ rest) = .ok (x, out ++ rest)

/-! ## Putting readers together -/

@[simp] theorem framed_pure (x : α) : Framed (pure x : Reader α) := by
  rintro cs y out rest - ⟨⟩
  rfl

@[simp] theorem framed_throw (e : Fault) : Framed (throw e : Reader α) := by
  rintro cs y out rest - ⟨⟩

/-- Framed readers that are run one after the other are a framed reader. -/
theorem framed_bind {r : Reader α} {f : α → Reader β} (hr : Framed r) (hf : ∀ x, Framed (f x)) :
    Framed (r >>= f) := by
  intro cs y out rest hrest h
  rw [StateT.run_bind] at h ⊢
  cases hx : r.run cs with
  | error e =>
    rw [hx] at h
    cases h
  | ok p =>
    rw [hx] at h
    rw [hr hrest hx]
    exact hf _ hrest h

/-- A reader that looks at the next character fails at the end of the text, and else does not
mind a closing text behind. -/
theorem framed_peek_bind {f : Option Char → Reader α} (hend : ∀ cs p, (f none).run cs ≠ .ok p)
    (hf : ∀ c ⦃cs x out rest⦄, Closing rest → (f (some c)).run (c :: cs) = .ok (x, out) →
      (f (some c)).run (c :: cs ++ rest) = .ok (x, out ++ rest)) :
    Framed (peek >>= f) := by
  intro cs x out rest hrest h
  have hrun : ∀ cs, (peek >>= f).run cs =
      (f (cs.dropWhile isSpace).head?).run (cs.dropWhile isSpace) := fun _ => rfl
  rw [hrun] at h ⊢
  cases hcs : cs.dropWhile isSpace with
  | nil =>
    rw [hcs] at h
    exact absurd h (hend _ _)
  | cons c tail =>
    rw [hcs] at h
    have happend : (cs ++ rest).dropWhile isSpace = c :: tail ++ rest := by
      simp [List.dropWhile_append, hcs]
    rw [happend]
    exact hf c hrest h

@[simp] theorem run_takeIf_cons (test : Char → Bool) (c : Char) (cs : List Char) :
    (takeIf test).run (c :: cs) = .ok (if test c then (true, cs) else (false, c :: cs)) := by
  change (if test c then _ else _ : Reader Bool).run (c :: cs) = _
  split <;> rfl

@[simp] theorem framed_takeIf {test : Char → Bool} (hcomma : test ',' = false)
    (hbreak : test '\n' = false) : Framed (takeIf test) := by
  intro cs x out rest hrest h
  cases cs with
  | nil =>
    cases h
    obtain rfl | ⟨c, tail, rfl, rfl | rfl⟩ := hrest.eq_nil_or_cons
    · rfl
    · simp [hcomma]
    · simp [hbreak]
  | cons c cs =>
    rw [run_takeIf_cons] at h
    rw [List.cons_append, run_takeIf_cons]
    split_ifs at h ⊢ <;> cases h <;> rfl

/-! ## Digits -/

/-- The digits of an exponent end at whatever closes the number. -/
theorem exponentDigits_append (h : Closing rest) (value : Option Nat) (cs : List Char) :
    exponentDigits value (cs ++ rest) =
      ((exponentDigits value cs).1, (exponentDigits value cs).2 ++ rest) := by
  induction cs generalizing value with
  | nil => obtain rfl | ⟨c, tail, rfl, rfl | rfl⟩ := h.eq_nil_or_cons <;> rfl
  | cons c cs ih =>
    simp only [List.cons_append, exponentDigits]
    split_ifs <;> simp [ih]

theorem fractionDigits_append (h : Closing rest) (significand kept : Nat) (full : Bool)
    (cs : List Char) :
    fractionDigits significand kept full (cs ++ rest) =
      ((fractionDigits significand kept full cs).1, (fractionDigits significand kept full cs).2.1,
        (fractionDigits significand kept full cs).2.2 ++ rest) := by
  induction cs generalizing significand kept full with
  | nil => obtain rfl | ⟨c, tail, rfl, rfl | rfl⟩ := h.eq_nil_or_cons <;> rfl
  | cons c cs ih =>
    simp only [List.cons_append, fractionDigits]
    split_ifs <;> simp [ih]

theorem integerDigits_append (h : Closing rest) (significand extra : Nat) (cs : List Char) :
    integerDigits significand extra (cs ++ rest) =
      ((integerDigits significand extra cs).1, (integerDigits significand extra cs).2.1,
        (integerDigits significand extra cs).2.2 ++ rest) := by
  induction cs generalizing significand extra with
  | nil => obtain rfl | ⟨c, tail, rfl, rfl | rfl⟩ := h.eq_nil_or_cons <;> rfl
  | cons c cs ih =>
    simp only [List.cons_append, integerDigits]
    split_ifs <;> simp [ih]

@[simp] theorem run_exponentValue_cons (c : Char) (cs : List Char) :
    exponentValue.run (c :: cs) =
      if isDigit c then .ok (exponentDigits (some (digitValue c)) cs) else .error .malformed := by
  unfold exponentValue
  cases hc : isDigit c <;> simp [hc] <;> rfl

@[simp] theorem framed_exponentValue : Framed exponentValue := by
  intro cs x out rest hrest h
  cases cs with
  | nil => nomatch (h : Except.error _ = Except.ok _)
  | cons c cs =>
    rw [run_exponentValue_cons] at h
    rw [List.cons_append, run_exponentValue_cons, exponentDigits_append hrest]
    split_ifs at h ⊢
    rw [Except.ok.injEq, Prod.ext_iff] at h
    rw [h.1, h.2]

@[simp] theorem run_fractionValue_cons (significand : Nat) (c : Char) (cs : List Char) :
    (fractionValue significand).run (c :: cs) =
      if isDigit c then
        let (significand, kept, rest) := fractionDigits significand 0 false (c :: cs)
        .ok ((significand, kept), rest)
      else .error .malformed := by
  unfold fractionValue
  cases hc : isDigit c <;> simp [hc] <;> rfl

@[simp] theorem framed_fractionValue (significand : Nat) : Framed (fractionValue significand) := by
  intro cs x out rest hrest h
  cases cs with
  | nil => nomatch (h : Except.error _ = Except.ok _)
  | cons c cs =>
    rw [run_fractionValue_cons] at h
    rw [List.cons_append, run_fractionValue_cons, ← List.cons_append, fractionDigits_append hrest]
    split_ifs at h ⊢
    cases h
    rfl

theorem run_integerValue_cons (c : Char) (cs : List Char) :
    integerValue.run (c :: cs) =
      if isDigit c ∧ ¬(c = '0' ∧ cs.head?.any isDigit) then
        let (significand, extra, rest) := integerDigits 0 0 (c :: cs)
        .ok ((significand, extra), rest)
      else .error .malformed := by
  unfold integerValue
  by_cases hc : isDigit c <;> by_cases hz : c = '0' ∧ cs.head?.any isDigit <;> simp [hc, hz] <;> rfl

/-- No digit follows a text because of what closes it. -/
theorem Closing.any_head?_append (h : Closing rest) (cs : List Char) :
    (cs ++ rest).head?.any isDigit = cs.head?.any isDigit := by
  cases cs with
  | nil => obtain rfl | ⟨c, tail, rfl, rfl | rfl⟩ := h.eq_nil_or_cons <;> rfl
  | cons c cs => rfl

@[simp] theorem framed_integerValue : Framed integerValue := by
  intro cs x out rest hrest h
  cases cs with
  | nil => nomatch (h : Except.error _ = Except.ok _)
  | cons c cs =>
    rw [run_integerValue_cons] at h
    rw [List.cons_append, run_integerValue_cons, ← List.cons_append, integerDigits_append hrest,
      hrest.any_head?_append]
    split_ifs at h ⊢
    cases h
    rfl

/-! ## Numbers -/

@[simp] theorem framed_ofParts (positive : Bool) (significand : Nat) (exponent : Int) :
    Framed (ofParts positive significand exponent) := by
  unfold ofParts
  split
  · exact framed_pure _
  · exact framed_throw _

@[simp] theorem framed_exponentSign : Framed exponentSign := by
  refine framed_bind (framed_takeIf rfl rfl) fun up => ?_
  cases up with
  | true => exact framed_pure _
  | false => exact framed_bind (framed_takeIf rfl rfl) fun _ => framed_pure _

@[simp] theorem framed_exponentPart (positive : Bool) (significand : Nat) (starting : Int) :
    Framed (exponentPart positive significand starting) := by
  refine framed_bind framed_exponentSign fun upward => framed_bind framed_exponentValue fun e => ?_
  cases e with
  | some e => exact framed_ofParts ..
  | none =>
    dsimp only
    by_cases hlarge : significand ≠ 0 ∧ upward
    · rw [if_pos hlarge]
      exact framed_bind (framed_throw _) fun _ => framed_pure _
    · rw [if_neg hlarge]
      exact framed_pure _

@[simp] theorem framed_optionalExponent (positive : Bool) (significand : Nat) (exponent : Int) :
    Framed (optionalExponent positive significand exponent) := by
  refine framed_bind (framed_takeIf rfl rfl) fun marked => ?_
  cases marked with
  | true => exact framed_exponentPart ..
  | false => exact framed_ofParts ..

@[simp] theorem framed_fractionPart (positive : Bool) (significand : Nat) (exponent : Int) :
    Framed (fractionPart positive significand exponent) :=
  framed_bind (framed_fractionValue significand) fun _ => framed_optionalExponent ..

@[simp] theorem framed_wholeNumeral (positive : Bool) (significand extra : Nat) :
    Framed (wholeNumeral positive significand extra) := by
  unfold wholeNumeral
  split_ifs
  · exact framed_bind (framed_ofParts ..) fun _ => framed_pure _
  all_goals exact framed_pure _

@[simp] theorem framed_numeralRest (positive : Bool) : Framed (numeralRest positive) := by
  refine framed_bind framed_integerValue fun ⟨significand, extra⟩ => ?_
  refine framed_bind (framed_takeIf rfl rfl) fun pointed => ?_
  cases pointed with
  | true => exact framed_bind (framed_fractionPart ..) fun _ => framed_pure _
  | false =>
    refine framed_bind (framed_takeIf rfl rfl) fun marked => ?_
    cases marked with
    | true => exact framed_bind (framed_exponentPart ..) fun _ => framed_pure _
    | false => exact framed_wholeNumeral ..

/-- The reader of numerals stops where the numeral does, whatever closing character follows. -/
@[simp] theorem framed_numeral? : Framed numeral? := by
  refine framed_peek_bind (fun cs p h => nomatch h) fun c cs x out rest hrest h => ?_
  dsimp only at h ⊢
  split_ifs at h ⊢
  · exact framed_bind (framed_numeralRest false) (fun _ => framed_pure _) hrest h
  · exact framed_bind (framed_numeralRest true) (fun _ => framed_pure _) hrest h
  · exact framed_pure _ hrest h

/-! ## Readers that always fail -/

def Fails (r : Reader α) : Prop := ∀ cs p, r.run cs ≠ .ok p

@[simp] theorem fails_throw (e : Fault) : Fails (throw e : Reader α) := nofun

/-- A reader whose continuation always fails has no result. -/
theorem fails_bind {r : Reader α} {f : α → Reader β} (hf : ∀ x, Fails (f x)) :
    Fails (r >>= f) := by
  intro cs p h
  rw [StateT.run_bind] at h
  cases hx : r.run cs with
  | error e =>
    rw [hx] at h
    cases h
  | ok q =>
    rw [hx] at h
    exact hf _ _ _ h

@[simp] theorem fails_mismatch : Fails (mismatch : Reader α) := by
  refine fails_bind fun n => ?_
  cases n with
  | some _ => exact fails_throw _
  | none =>
    refine fails_bind fun c => ?_
    split
    · exact fails_bind fun _ => fails_bind fun _ => fails_throw _
    · exact fails_bind fun _ => fails_bind fun _ => fails_throw _
    · exact fails_bind fun _ => fails_bind fun _ => fails_throw _
    · exact fails_bind fun _ => fails_bind fun _ => fails_throw _
    all_goals exact fails_throw _

@[grind →] theorem Fails.framed {r : Reader α} (h : Fails r) : Framed r :=
  fun _ _ _ _ _ hr => absurd hr (h _ _)

@[simp] theorem framed_number : Framed number := by
  refine framed_bind framed_numeral? fun n => ?_
  split
  · exact framed_pure _
  · exact framed_pure _
  · exact framed_pure _
  · exact fails_mismatch.framed

end Lookalike.Json
