import Lookalike.Json.Value
import Lookalike.Proofs.Json.Frame
import Mathlib.Data.List.Basic
import Mathlib.Tactic.IntervalCases

/-!
# Numbers and strings read back

A reader takes a text as a value when it gives that value for the text in every place: behind
white space, and with a closing text behind. Natural numbers below `2 ^ 64` and all strings are
taken from the texts that are written for them. Whether other numbers are depends on how exactly
their decimals are scaled when they are read.

## Main definitions

* `Json.Takes` — the reader takes the text as the value.
* `Json.ReadsBack` — the reader of numbers takes the decimal that is written for the number.

## Main results

* `Json.takes_natural`, `Json.takes_number`, `Json.takes_string` — what is written is taken.
-/

namespace Lookalike.Json

variable {α β : Type} {r : Reader α} {x : α} {text cs out rest ws : List Char} {c : Char}

/-! ## Running readers -/

/-- A reader that succeeds hands its result and what it left over to the next one. -/
theorem run_bind_of_ok {f : α → Reader β} (h : r.run cs = .ok (x, out)) :
    (r >>= f).run cs = (f x).run out := by
  rw [StateT.run_bind, h]
  rfl

theorem run_drop_bind (f : Unit → Reader α) (c : Char) (cs : List Char) :
    (drop >>= f).run (c :: cs) = (f ()).run cs := rfl

def Blank (ws : List Char) : Prop := ∀ c ∈ ws, isSpace c

@[simp] theorem blank_nil : Blank [] := nofun

@[simp] theorem blank_space : Blank [' '] := by simp [Blank, isSpace]

@[simp] theorem blank_lineBreak (level : Nat) : Blank (lineBreak level) := by
  intro c hc
  obtain rfl | hc := List.mem_cons.1 hc
  · rfl
  · rw [(List.mem_replicate.1 hc).2]
    rfl

def SkipsBlank (r : Reader α) : Prop := ∀ ⦃ws⦄ cs, Blank ws → r.run (ws ++ cs) = r.run cs

@[simp] theorem skipsBlank_peek_bind (f : Option Char → Reader α) : SkipsBlank (peek >>= f) := by
  intro ws cs hws
  change (f ((ws ++ cs).dropWhile isSpace).head?).run ((ws ++ cs).dropWhile isSpace) = _
  rw [List.dropWhile_append_of_pos hws]
  rfl

@[grind ←]
theorem SkipsBlank.bind (h : SkipsBlank r) (f : α → Reader β) : SkipsBlank (r >>= f) := by
  intro ws cs hws
  rw [StateT.run_bind, StateT.run_bind, h cs hws]

/-- Looking ahead skips the blanks and sees the first character behind them. -/
theorem run_peek_bind {f : Option Char → Reader α} (cs : List Char) (hws : Blank ws)
    (hc : isSpace c = false) : (peek >>= f).run (ws ++ c :: cs) = (f (some c)).run (c :: cs) := by
  rw [skipsBlank_peek_bind f _ hws]
  change (f ((c :: cs).dropWhile isSpace).head?).run ((c :: cs).dropWhile isSpace) = _
  rw [List.dropWhile_cons_of_neg (by simp [hc])]
  rfl

/-- The reader takes the text as the value wherever it stands. -/
def Takes (r : Reader α) (text : List Char) (x : α) : Prop :=
  ∀ ⦃ws rest⦄, Blank ws → Closing rest → r.run (ws ++ (text ++ rest)) = .ok (x, rest)

/-- A reader that skips blanks, stops at the end of its text and reads the whole of `text` as `x`
takes `text` wherever it stands. -/
theorem takes_of_framed (hskips : SkipsBlank r) (hframed : Framed r)
    (h : r.run text = .ok (x, [])) : Takes r text x := by
  intro ws rest hws hrest
  rw [hskips _ hws, hframed hrest h]
  rfl

/-! ## Numbers -/

@[grind →] theorem isDigit_of_mem_toDigits {n : Nat} (h : c ∈ Nat.toDigits 10 n) : isDigit c :=
  (Nat.isDigit_of_mem_toDigits (by decide) (by decide) h : c.isDigit)

theorem exists_toDigits_eq_cons (n : Nat) : ∃ c ds, Nat.toDigits 10 n = c :: ds ∧ isDigit c := by
  cases hds : Nat.toDigits 10 n with
  | nil => exact absurd hds Nat.toDigits_ne_nil
  | cons c ds => exact ⟨c, ds, rfl, isDigit_of_mem_toDigits (hds ▸ List.mem_cons_self)⟩

@[grind ←] theorem digitChar_ne_zero {n : Nat} (hpos : 0 < n) (h : n < 10) : n.digitChar ≠ '0' := by
  interval_cases n <;> decide

/-- A positive number is written without a zero in front. -/
theorem head?_toDigits_ne_zero {n : Nat} (hpos : 0 < n) :
    (Nat.toDigits 10 n).head? ≠ some '0' := by
  induction n using Nat.strongRecOn with
  | ind n ih =>
    by_cases h : n < 10
    · rw [Nat.toDigits_of_lt_base h]
      simpa using digitChar_ne_zero hpos h
    · rw [Nat.toDigits_of_base_le (by decide) (by omega),
        List.head?_append_of_ne_nil _ Nat.toDigits_ne_nil]
      exact ih _ (by omega) (by omega)

/-- Digits are all kept as long as what they stand for fits. -/
theorem integerDigits_of_le {significand : Nat} (hcs : ∀ c ∈ cs, isDigit c)
    (hle : Nat.ofDigitChars 10 cs significand ≤ largestSignificand) :
    integerDigits significand 0 cs = (Nat.ofDigitChars 10 cs significand, 0, []) := by
  induction cs generalizing significand with
  | nil => rfl
  | cons c cs ih =>
    have hvalue : Nat.ofDigitChars 10 (c :: cs) significand =
        Nat.ofDigitChars 10 cs (significand * 10 + digitValue c) := by
      rw [Nat.ofDigitChars_cons, Nat.mul_comm]
      rfl
    rw [hvalue] at hle ⊢
    -- the digits that follow only make the number larger
    have hnext : significand * 10 + digitValue c ≤ largestSignificand := by
      rw [Nat.ofDigitChars_eq_ofDigitChars_zero] at hle
      have hpow := Nat.le_mul_of_pos_left (significand * 10 + digitValue c)
        (Nat.pow_pos (a := 10) (n := cs.length) (by decide))
      omega
    rw [integerDigits, if_pos (hcs c List.mem_cons_self)]
    simpa [hnext.not_gt] using ih (fun d hd => hcs d (List.mem_cons_of_mem _ hd)) hle

/-- The decimal digits of a number up to the largest significand are read as that number. -/
theorem run_integerValue_toDigits {n : Nat} (hn : n ≤ largestSignificand) :
    integerValue.run (Nat.toDigits 10 n) = .ok ((n, 0), []) := by
  have hkept : integerDigits 0 0 (Nat.toDigits 10 n) = (n, 0, []) := by
    rw [integerDigits_of_le (fun c => isDigit_of_mem_toDigits) (by
      rwa [Nat.ofDigitChars_ten_toDigits]), Nat.ofDigitChars_ten_toDigits]
  obtain ⟨c, ds, hds, hc⟩ := exists_toDigits_eq_cons n
  have hzero : ¬(c = '0' ∧ ds.head?.any isDigit) := by
    rintro ⟨rfl, hany⟩
    obtain rfl | hpos := Nat.eq_zero_or_pos n
    · rw [Nat.toDigits_zero, List.cons.injEq] at hds
      rw [← hds.2] at hany
      cases hany
    · exact head?_toDigits_ne_zero hpos (congrArg List.head? hds)
  rw [hds] at hkept ⊢
  rw [run_integerValue_cons, if_pos ⟨hc, hzero⟩, hkept]

@[simp] theorem skipsBlank_numeral? : SkipsBlank numeral? := skipsBlank_peek_bind _

@[grind →] theorem isSpace_of_isDigit (h : isDigit c) : isSpace c = false := by
  rw [Bool.eq_false_iff]
  intro hspace
  simp only [isSpace, Bool.or_eq_true, beq_iff_eq] at hspace
  obtain ((rfl | rfl) | rfl) | rfl := hspace <;> cases h

theorem run_numeral?_toDigits {n : Nat} (hn : n ≤ largestSignificand) :
    numeral?.run (Nat.toDigits 10 n) = .ok (some (.unsigned n), []) := by
  have hvalue := run_integerValue_toDigits hn
  obtain ⟨c, ds, hds, hc⟩ := exists_toDigits_eq_cons n
  rw [hds] at hvalue ⊢
  have hsign : (c == '-') = false := by
    rw [beq_eq_false_iff_ne]
    rintro rfl
    cases hc
  have hrest : (numeralRest true).run (c :: ds) = .ok (.unsigned n, []) := run_bind_of_ok hvalue
  refine (run_peek_bind ds blank_nil (isSpace_of_isDigit hc)).trans ?_
  simp only [hsign, hc, Bool.false_eq_true, if_false, if_true]
  exact run_bind_of_ok hrest

@[simp] theorem framed_natural (bound : Nat) : Framed (natural bound) := by
  refine framed_bind framed_numeral? fun n => ?_
  split
  · split
    · exact framed_pure _
    · exact framed_throw _
  · exact framed_throw _
  · exact fails_mismatch.framed

theorem takes_natural {bound n : Nat} (hn : n < bound) (hbound : bound ≤ UInt64.size) :
    Takes (natural bound) (Nat.toDigits 10 n) n := by
  refine takes_of_framed (skipsBlank_numeral?.bind _) (framed_natural bound) ?_
  refine (run_bind_of_ok (run_numeral?_toDigits ?_)).trans ?_
  · have : largestSignificand = UInt64.size - 1 := rfl
    omega
  · simp only [hn, if_true]
    rfl

/-- The reader of numbers takes the decimal that is written for the number, and gives the number
back. -/
def ReadsBack (x : Float) : Prop := number.run (floatText x) = .ok (x, [])

instance (x : Float) : Decidable (ReadsBack x) := by unfold ReadsBack; infer_instance

/-- A number that reads back from its own text does so wherever that text stands. -/
theorem takes_number {x : Float} (h : ReadsBack x) : Takes number (floatText x) x :=
  takes_of_framed (skipsBlank_numeral?.bind _) framed_number h

/-! ## Strings -/

theorem stringBody_escape {strict : Bool} {e d : Char} (he : e ≠ 'u') (hd : escaped? e = some d)
    (acc rest : List Char) :
    stringBody strict acc ('\\' :: e :: rest) = stringBody strict (d :: acc) rest := by
  rw [stringBody.eq_def]
  simp [he, hd]

@[simp] theorem hexValue4?_hexDigit {n : Nat} (h : n < 0x20) :
    hexValue4? '0' '0' (hexDigit (n / 16)) (hexDigit (n % 16)) = some n := by
  interval_cases n <;> decide

/-- A control character is read back from its four hexadecimal digits. -/
theorem stringBody_control (h : c.toNat < 0x20) (acc rest : List Char) :
    stringBody true acc ('\\' :: 'u' :: '0' :: '0' :: hexDigit (c.toNat / 16) ::
      hexDigit (c.toNat % 16) :: rest) = stringBody true (c :: acc) rest := by
  have hlow : c.toNat < 0xd800 := by omega
  rw [stringBody.eq_def]
  simp [h, hlow]

theorem stringBody_plain (hquote : c ≠ '"') (hslash : c ≠ '\\') (hplain : ¬c.toNat < 0x20)
    (acc rest : List Char) : stringBody true acc (c :: rest) = stringBody true (c :: acc) rest := by
  rw [stringBody.eq_def]
  simp [hquote, hslash, hplain]

/-- One character is read back from the text that is written for it. -/
theorem stringBody_charText (c : Char) (acc rest : List Char) :
    stringBody true acc (charText c ++ rest) = stringBody true (c :: acc) rest := by
  unfold charText
  split_ifs with hquote hslash h h h h h hcontrol
  · subst hquote
    exact stringBody_escape (by decide) rfl acc rest
  · subst hslash
    exact stringBody_escape (by decide) rfl acc rest
  iterate 5
    · subst h
      exact stringBody_escape (by decide) rfl acc rest
  · exact stringBody_control hcontrol acc rest
  · exact stringBody_plain hquote hslash hcontrol acc rest

theorem stringBody_flatMap_charText (cs acc rest : List Char) :
    stringBody true acc (cs.flatMap charText ++ '"' :: rest) = .ok (cs.reverse ++ acc, rest) := by
  induction cs generalizing acc with
  | nil =>
    rw [stringBody.eq_def]
    simp
  | cons c cs ih => simp [stringBody_charText, ih]

/-- A string is read back from its escaped characters and the closing quote. -/
@[simp] theorem run_stringRest (s : String) (rest : List Char) :
    stringRest.run (s.toList.flatMap charText ++ '"' :: rest) = .ok (s, rest) := by
  have hbody := stringBody_flatMap_charText s.toList [] rest
  have htext : String.ofList (s.toList.reverse ++ []).reverse = s := by simp
  simp only [stringRest, StateT.run_bind, StateT.run_get, pure_bind, hbody]
  exact congrArg (fun t => Except.ok (t, rest)) htext

theorem stringText_append (s : String) (rest : List Char) :
    stringText s ++ rest = '"' :: (s.toList.flatMap charText ++ '"' :: rest) := by
  simp [stringText]

@[simp] theorem takes_string (s : String) : Takes string (stringText s) s := by
  intro ws rest hws _
  rw [stringText_append, string, run_peek_bind _ hws rfl]
  exact run_stringRest s rest

/-! ## Values that may be missing -/

@[simp]
theorem takes_nullable_null (read : Reader α) : Takes (nullable read) "null".toList none := by
  intro ws rest hws _
  exact (run_peek_bind (c := 'n') _ hws rfl).trans rfl

@[simp]
theorem takes_nullable_string (s : String) : Takes (nullable string) (stringText s) (some s) := by
  intro ws rest hws hrest
  have hstring := takes_string s blank_nil hrest
  rw [stringText_append] at hstring ⊢
  rw [nullable, run_peek_bind _ hws rfl]
  exact run_bind_of_ok hstring

end Lookalike.Json
