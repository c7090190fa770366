import Lookalike.Proofs.Json.Scalar
import Mathlib.Data.List.Forall2

/-!
# Documents read back

An array is read back when its items are, and an object when its members fill the fields of a
record one after the other. Members are found by their names. Where a field has several names, the
value may be written with any of them: what is stated here of a value holds of all values that
differ from it only in such names.

## Main definitions

* `Json.Value.Renamed` — the same value with other names of members.
* `Json.Reads` — the reader takes a value, under all names that its members may have.
* `Json.Fills` — the members of an object fill a draft.

## Main results

* `Json.reads_list`, `Json.reads_record` — arrays and objects are read back.
* `Json.document_of_reads` — a document of one value is read back.
-/

namespace Lookalike.Json

variable {α δ γ : Type} {x : α} {xs : List α} {v : Value} {vs : List Value}
  {text cs out rest ws : List Char} {ρ : String → String → Prop}

/-! ## The starts of values -/

/-- A text that starts with a character that is neither white space nor the end of an array. -/
def Opening (text : List Char) : Prop := ∃ c cs, text = c :: cs ∧ isSpace c = false ∧ c ≠ ']'

@[grind ←]
theorem Opening.append (h : Opening text) (rest : List Char) : Opening (text ++ rest) := by
  obtain ⟨c, cs, rfl, hc⟩ := h
  exact ⟨c, cs ++ rest, rfl, hc⟩

@[grind ←]
theorem opening_digit {c : Char} (h : isDigit c) (cs : List Char) : Opening (c :: cs) := by
  refine ⟨c, cs, rfl, isSpace_of_isDigit h, ?_⟩
  rintro rfl
  cases h

@[simp] theorem opening_toDigits (n : Nat) : Opening (Nat.toDigits 10 n) := by
  obtain ⟨c, ds, hds, hc⟩ := exists_toDigits_eq_cons n
  exact hds ▸ opening_digit hc ds

theorem Opening.positional (h : Opening text) (exponent : Int) :
    Opening (positional text exponent) := by
  obtain ⟨c, cs, rfl, hc⟩ := h
  unfold Json.positional
  split_ifs
  · exact opening_digit rfl _
  · exact ⟨c, _, rfl, hc⟩

theorem Opening.scientific (h : Opening text) (exponent : Int) :
    Opening (scientific text exponent) := by
  obtain ⟨c, cs, rfl, hc⟩ := h
  cases cs <;> exact ⟨c, _, rfl, hc⟩

@[simp] theorem opening_decimalText (d : Decimal) : Opening (decimalText d) := by
  unfold decimalText
  dsimp only
  split_ifs
  · exact (opening_toDigits _).positional _
  · exact (opening_toDigits _).scientific _

@[simp] theorem opening_floatText (x : Float) : Opening (floatText x) := by
  unfold floatText
  cases Binary64.ofFloat x with
  | nan => exact ⟨'n', _, rfl, rfl, by decide⟩
  | infinite negative => exact ⟨'n', _, rfl, rfl, by decide⟩
  | finite negative mantissa shift =>
    unfold binaryText
    by_cases hzero : mantissa = 0
    · simp only [hzero, if_true]
      cases negative
      · exact opening_digit (c := '0') rfl _
      · exact ⟨'-', _, rfl, rfl, by decide⟩
    · simp only [hzero, if_false]
      cases negative
      · exact opening_decimalText _
      · exact ⟨'-', _, rfl, rfl, by decide⟩

/-- Every printed value begins with a character that is neither blank nor a closing bracket. -/
@[simp] theorem opening_pretty (level : Nat) (v : Value) : Opening (v.pretty level) := by
  cases v with
  | null => exact ⟨'n', _, rfl, rfl, by decide⟩
  | natural n => exact opening_toDigits n
  | number x => exact opening_floatText x
  | string s => exact ⟨'"', _, rfl, rfl, by decide⟩
  | array items => cases items <;> exact ⟨'[', _, rfl, rfl, by decide⟩
  | object members => cases members <;> exact ⟨'\x7b', _, rfl, rfl, by decide⟩

/-! ## Entries on lines of their own -/

/-- Entries after the first one, each behind a comma. -/
def later (text : γ → List Char) (entries : List γ) : List Char :=
  entries.flatMap fun e => ',' :: text e

@[simp] theorem later_cons_append (text : γ → List Char) (e : γ) (es : List γ) (rest : List Char) :
    later text (e :: es) ++ rest = ',' :: (text e ++ (later text es ++ rest)) := by
  simp [later]

theorem length_le_length_later (text : γ → List Char) (entries : List γ) :
    entries.length ≤ (later text entries).length := by
  induction entries with
  | nil => simp
  | cons e es ih =>
    simp only [later, List.flatMap_cons, List.length_append, List.length_cons] at ih ⊢
    omega

/-- Behind an entry stands the comma of the next one, or the line of the closing bracket. -/
theorem closing_later (text : γ → List Char) (entries : List γ) (level : Nat) (rest : List Char) :
    Closing (later text entries ++ (lineBreak level ++ rest)) := by
  cases entries with
  | nil =>
    rintro c ⟨⟩
    exact .inr rfl
  | cons e es =>
    rintro c ⟨⟩
    exact .inl rfl

def itemText (level : Nat) (v : Value) : List Char := lineBreak level ++ v.pretty level

@[simp] theorem itemText_append (level : Nat) (v : Value) (rest : List Char) :
    itemText level v ++ rest = lineBreak level ++ (v.pretty level ++ rest) := by
  simp [itemText]

@[simp] theorem prettyItems_cons (level : Nat) (v : Value) (vs : List Value) :
    Value.prettyItems level (v :: vs) = itemText level v ++ later (itemText level) vs := by
  induction vs generalizing v with
  | nil => simp [Value.prettyItems, itemText, later]
  | cons w vs ih => simp [Value.prettyItems, itemText, later, ih]

def memberText (level : Nat) (m : String × Value) : List Char :=
  lineBreak level ++ stringText m.1 ++ ':' :: ' ' :: m.2.pretty level

@[simp] theorem memberText_append (level : Nat) (m : String × Value) (rest : List Char) :
    memberText level m ++ rest =
      lineBreak level ++ (stringText m.1 ++ ':' :: ' ' :: (m.2.pretty level ++ rest)) := by
  simp [memberText]

@[simp] theorem prettyMembers_cons (level : Nat) (m : String × Value) (ms : List (String × Value)) :
    Value.prettyMembers level (m :: ms) = memberText level m ++ later (memberText level) ms := by
  induction ms generalizing m with
  | nil => simp [Value.prettyMembers, memberText, later]
  | cons n ms ih => simp [Value.prettyMembers, memberText, later, ih]

/-! ## Arrays -/

/-- Before its first item a list only skips blanks. -/
theorem run_nextItem_first (hws : Blank ws) (h : Opening text) :
    (nextItem true).run (ws ++ text) = .ok (true, text) := by
  obtain ⟨c, cs, rfl, hc, hend⟩ := h
  rw [nextItem, run_peek_bind cs hws hc]
  simp only [beq_iff_eq, hend, if_false, if_true]
  rfl

/-- Before a later item a list takes the comma and skips blanks. -/
theorem run_nextItem_later (hws : Blank ws) (h : Opening text) :
    (nextItem false).run (',' :: (ws ++ text)) = .ok (true, text) := by
  obtain ⟨c, cs, rfl, hc, hend⟩ := h
  rw [nextItem, ← List.nil_append (',' :: _), run_peek_bind _ blank_nil rfl]
  simp only [Char.reduceBEq, Bool.false_eq_true, if_false, if_true]
  rw [run_drop_bind, run_peek_bind cs hws hc]
  simp only [beq_iff_eq, hend, if_false]
  rfl

theorem run_nextItem_end (hws : Blank ws) (first : Bool) :
    (nextItem first).run (ws ++ ']' :: rest) = .ok (false, ']' :: rest) := by
  rw [nextItem, run_peek_bind _ hws rfl]
  rfl

section

variable {read : Reader α} {level outer fuel : Nat} {first : Bool} {after : List Char}

/-- One step of reading the items of an array. -/
theorem run_items_cons (hnext : (nextItem first).run cs = .ok (true, text ++ after))
    (hx : Takes read text x) (hclosing : Closing after)
    (hxs : (items read fuel false).run after = .ok (xs, out)) :
    (items read (fuel + 1) first).run cs = .ok (x :: xs, out) := by
  refine (run_bind_of_ok hnext).trans ?_
  refine (run_bind_of_ok (hx blank_nil hclosing)).trans ?_
  exact run_bind_of_ok hxs

/-- The items behind the first one are read up to the closing bracket. -/
theorem run_items_later (h : List.Forall₂ (fun v x => Takes read (v.pretty level) x) vs xs)
    (hfuel : vs.length < fuel) :
    (items read fuel false).run (later (itemText level) vs ++ (lineBreak outer ++ ']' :: rest)) =
      .ok (xs, ']' :: rest) := by
  induction h generalizing fuel with
  | nil =>
    obtain _ | fuel := fuel
    · cases hfuel
    · exact run_bind_of_ok (run_nextItem_end (blank_lineBreak outer) false)
  | @cons v x vs xs hx _ ih =>
    obtain _ | fuel := fuel
    · cases hfuel
    · have hopening := (opening_pretty level v).append
        (later (itemText level) vs ++ (lineBreak outer ++ ']' :: rest))
      rw [later_cons_append, itemText_append]
      exact run_items_cons (run_nextItem_later (blank_lineBreak level) hopening) hx
        (closing_later _ _ _ _) (ih (Nat.lt_of_succ_lt_succ hfuel))

theorem run_list (hws : Blank ws)
    (h : (items read (cs.length + 1) true).run cs = .ok (xs, ']' :: rest)) :
    (list read).run (ws ++ '[' :: cs) = .ok (xs, rest) := by
  rw [list, run_peek_bind cs hws rfl]
  change (items read (cs.length + 1) true >>= fun xs => arrayEnd >>= fun _ => pure xs).run cs = _
  exact (run_bind_of_ok h).trans rfl

/-- A printed array is read as the list of what its items are read as. -/
theorem takes_list (h : List.Forall₂ (fun v x => Takes read (v.pretty (level + 1)) x) vs xs) :
    Takes (list read) ((Value.array vs).pretty level) xs := by
  intro ws rest hws hrest
  cases h with
  | nil => exact run_list hws (run_bind_of_ok (run_nextItem_end blank_nil true))
  | @cons v x vs xs hx hxs =>
    have htext : (Value.array (v :: vs)).pretty level ++ rest =
        '[' :: (itemText (level + 1) v ++
          (later (itemText (level + 1)) vs ++ (lineBreak level ++ ']' :: rest))) := by
      simp [Value.pretty]
    have hopening := (opening_pretty (level + 1) v).append
      (later (itemText (level + 1)) vs ++ (lineBreak level ++ ']' :: rest))
    rw [htext, itemText_append]
    -- the steps are bounded by the length of the text, which has a comma for each item
    refine run_list hws (run_items_cons (run_nextItem_first (blank_lineBreak _) hopening) hx
      (closing_later _ _ _ _) (run_items_later hxs ?_))
    have hlength := length_le_length_later (itemText (level + 1)) vs
    simp only [List.length_append, List.length_cons]
    omega

end

/-! ## Values up to the names of members -/

/-- The same value, except that names of members are replaced by names related to them. -/
inductive Value.Renamed (ρ : String → String → Prop) : Value → Value → Prop where
  | null : Renamed ρ .null .null
  | natural (n : Nat) : Renamed ρ (.natural n) (.natural n)
  | number (x : Float) : Renamed ρ (.number x) (.number x)
  | string (s : String) : Renamed ρ (.string s) (.string s)
  | array {vs ws : List Value} (hitems : List.Forall₂ (Renamed ρ) vs ws) :
    Renamed ρ (.array vs) (.array ws)
  | object {ms ns : List (String × Value)} (hnames : List.Forall₂ (fun m n => ρ m.1 n.1) ms ns)
    (hvalues : List.Forall₂ (fun m n => Renamed ρ m.2 n.2) ms ns) :
    Renamed ρ (.object ms) (.object ns)

/-- A value is a renaming of itself where every name is related to itself. -/
theorem Value.Renamed.refl (hρ : ∀ k, ρ k k) : ∀ v, Renamed ρ v v
  | .null => .null
  | .natural n => .natural n
  | .number x => .number x
  | .string s => .string s
  | .array _ => .array (List.forall₂_same.2 fun v _ => refl hρ v)
  | .object ms =>
    .object (List.forall₂_same.2 fun _ _ => hρ _) (List.forall₂_same.2 fun (k, v) hm =>
      have : sizeOf v < 1 + sizeOf ms := by
        have := List.sizeOf_lt_of_mem hm
        simp only [Prod.mk.sizeOf_spec] at this
        omega
      refl hρ v)

/-- The reader takes the value on every level and under all names that its members may have. -/
def Reads (ρ : String → String → Prop) (r : Reader α) (v : Value) (x : α) : Prop :=
  ∀ ⦃w⦄, v.Renamed ρ w → ∀ level, Takes r (w.pretty level) x

theorem reads_natural {bound n : Nat} (hn : n < bound) (hbound : bound ≤ UInt64.size) :
    Reads ρ (natural bound) (.natural n) n := by
  rintro _ ⟨⟩ level
  exact takes_natural hn hbound

theorem reads_number {x : Float} (h : ReadsBack x) : Reads ρ number (.number x) x := by
  rintro _ ⟨⟩ level
  exact takes_number h

@[simp] theorem reads_nullable_null (read : Reader α) : Reads ρ (nullable read) .null none := by
  rintro _ ⟨⟩ level
  exact takes_nullable_null read

@[simp]
theorem reads_nullable_string (s : String) : Reads ρ (nullable string) (.string s) (some s) := by
  rintro _ ⟨⟩ level
  exact takes_nullable_string s

theorem forall₂_takes {read : Reader α} {ws : List Value}
    (h : List.Forall₂ (Reads ρ read) vs xs) (hws : List.Forall₂ (Value.Renamed ρ) vs ws)
    (level : Nat) : List.Forall₂ (fun w x => Takes read (w.pretty level) x) ws xs := by
  induction h generalizing ws with
  | nil =>
    cases hws
    exact .nil
  | cons hx _ ih =>
    obtain ⟨w, ws, hw, hws', rfl⟩ := List.forall₂_cons_left_iff.1 hws
    exact .cons (hx hw level) (ih hws')

theorem reads_list {read : Reader α} (h : List.Forall₂ (Reads ρ read) vs xs) :
    Reads ρ (list read) (.array vs) xs := by
  rintro _ (_ | _ | _ | _ | hws) level
  exact takes_list (forall₂_takes h hws _)

/-- A list is read back when each of its items is. -/
theorem reads_list_map {read : Reader α} {toJson : α → Value}
    (h : ∀ x ∈ xs, Reads ρ read (toJson x) x) :
    Reads ρ (list read) (.array (xs.map toJson)) xs := by
  refine reads_list ?_
  rw [List.forall₂_map_left_iff, List.forall₂_same]
  exact h

/-! ## Objects -/

variable {fields : List (FieldReader δ)} {f : FieldReader δ} {d d' d'' : δ} {key : String}
  {ms ns : List (String × Value)}

/-- From the first draft the members make the last one: under each of its names a member finds a
field that has not been set, which reads its value. -/
inductive Fills (ρ : String → String → Prop) (fields : List (FieldReader δ)) :
    δ → List (String × Value) → δ → Prop where
  | nil (d : δ) : Fills ρ fields d [] d
  | cons {d d' d'' : δ} {k : String} {v : Value} {ms : List (String × Value)} (f : FieldReader δ)
    (hfind : ∀ k', ρ k k' → fields.find? (·.names.contains k') = some f)
    (hset : f.isSet d = false) (hread : Reads ρ (f.read d) v d')
    (hlater : Fills ρ fields d' ms d'') :
    Fills ρ fields d ((k, v) :: ms) d''

/-- A member whose value is read into a field with a setter. -/
theorem Fills.of {k : String} {names : List String} {get : δ → Option α} {put : δ → α → δ}
    {read : Reader α}
    (hfind : ∀ k', ρ k k' → fields.find? (·.names.contains k') = some (.of names get put read))
    (hset : get d = none) (hread : Reads ρ read v x) (hlater : Fills ρ fields (put d x) ms d') :
    Fills ρ fields d ((k, v) :: ms) d' := by
  refine .cons _ hfind (congrArg Option.isSome hset) ?_ hlater
  intro w hw level ws rest hws hrest
  exact run_bind_of_ok (hread hw level hws hrest)

theorem run_nextMember_first (hws : Blank ws) (key : String) (cs : List Char) :
    (nextMember true).run (ws ++ (stringText key ++ cs)) = .ok (true, stringText key ++ cs) := by
  rw [stringText_append, nextMember, run_peek_bind _ hws rfl]
  rfl

theorem run_nextMember_later (hws : Blank ws) (key : String) (cs : List Char) :
    (nextMember false).run (',' :: (ws ++ (stringText key ++ cs))) =
      .ok (true, stringText key ++ cs) := by
  rw [nextMember, ← List.nil_append (',' :: _), run_peek_bind _ blank_nil rfl]
  simp only [Char.reduceBEq, Bool.false_eq_true, if_false, if_true]
  rw [run_drop_bind, stringText_append, run_peek_bind _ hws rfl]
  rfl

theorem run_nextMember_end (hws : Blank ws) (first : Bool) :
    (nextMember first).run (ws ++ '\x7d' :: rest) = .ok (false, '\x7d' :: rest) := by
  rw [nextMember, run_peek_bind _ hws rfl]
  rfl

section

variable {level outer fuel : Nat} {first : Bool} {after : List Char}

/-- One step of reading the members of an object. -/
theorem run_members_cons
    (hnext : (nextMember first).run cs =
      .ok (true, stringText key ++ ':' :: ' ' :: (text ++ after)))
    (hfind : fields.find? (·.names.contains key) = some f) (hset : f.isSet d = false)
    (hread : Takes (f.read d) text d') (hclosing : Closing after)
    (hlater : (members fields fuel false d').run after = .ok (d'', out)) :
    (members fields (fuel + 1) first d).run cs = .ok (d'', out) := by
  have hvalue : (f.read d).run (' ' :: (text ++ after)) = .ok (d', after) :=
    hread blank_space hclosing
  refine (run_bind_of_ok hnext).trans ?_
  rw [stringText_append]
  simp only [if_true]
  rw [run_drop_bind]
  refine (run_bind_of_ok (run_stringRest key _)).trans ?_
  rw [hfind]
  simp only [hset]
  exact (run_bind_of_ok hvalue).trans hlater

/-- The members behind the first one fill their fields of the draft up to the closing brace. -/
theorem run_members_later (h : Fills ρ fields d ms d')
    (hnames : List.Forall₂ (fun m n => ρ m.1 n.1) ms ns)
    (hvalues : List.Forall₂ (fun m n => m.2.Renamed ρ n.2) ms ns) (hfuel : ns.length < fuel) :
    (members fields fuel false d).run
      (later (memberText level) ns ++ (lineBreak outer ++ '\x7d' :: rest)) =
        .ok (d', '\x7d' :: rest) := by
  induction h generalizing ns fuel with
  | nil =>
    cases hnames
    obtain _ | fuel := fuel
    · cases hfuel
    · exact run_bind_of_ok (run_nextMember_end (blank_lineBreak outer) false)
  | cons f hfind hset hread _ ih =>
    obtain ⟨n, ns, hname, hnames', rfl⟩ := List.forall₂_cons_left_iff.1 hnames
    obtain ⟨hvalue, hvalues'⟩ := List.forall₂_cons.1 hvalues
    obtain _ | fuel := fuel
    · cases hfuel
    · rw [later_cons_append, memberText_append]
      exact run_members_cons (run_nextMember_later (blank_lineBreak level) _ _) (hfind _ hname)
        hset (hread hvalue _) (closing_later _ _ _ _)
        (ih hnames' hvalues' (Nat.lt_of_succ_lt_succ hfuel))

theorem run_record {lenient : Bool} {draft : δ} {finish : δ → Option α} (hws : Blank ws)
    (h : (members fields (cs.length + 1) true draft).run cs = .ok (d, '\x7d' :: rest))
    (hfinish : finish d = some x) :
    (record lenient fields draft finish).run (ws ++ '\x7b' :: cs) = .ok (x, rest) := by
  rw [record, run_peek_bind cs hws rfl]
  change (members fields (cs.length + 1) true draft >>= fun d =>
    record.done finish d >>= fun x => drop >>= fun _ => pure x).run cs = _
  refine (run_bind_of_ok h).trans ?_
  rw [record.done, hfinish]
  rfl

end

/-- An object whose members fill the fields of a draft is read as the record that the draft
finishes to. -/
theorem reads_record {lenient : Bool} {draft : δ} {finish : δ → Option α}
    (h : Fills ρ fields draft ms d) (hfinish : finish d = some x) :
    Reads ρ (record lenient fields draft finish) (.object ms) x := by
  rintro _ (_ | _ | _ | _ | _ | ⟨hnames, hvalues⟩) level ws rest hws hrest
  cases h with
  | nil =>
    cases hnames
    exact run_record hws (run_bind_of_ok (run_nextMember_end blank_nil true)) hfinish
  | cons f hfind hset hread hlater =>
    obtain ⟨n, ns, hname, hnames', rfl⟩ := List.forall₂_cons_left_iff.1 hnames
    obtain ⟨hvalue, hvalues'⟩ := List.forall₂_cons.1 hvalues
    have htext : (Value.object (n :: ns)).pretty level ++ rest =
        '\x7b' :: (memberText (level + 1) n ++
          (later (memberText (level + 1)) ns ++ (lineBreak level ++ '\x7d' :: rest))) := by
      simp [Value.pretty]
    rw [htext, memberText_append]
    refine run_record hws (run_members_cons (run_nextMember_first (blank_lineBreak _) _ _)
      (hfind _ hname) hset (hread hvalue _) (closing_later _ _ _ _)
      (run_members_later hlater hnames' hvalues' ?_)) hfinish
    have hlength := length_le_length_later (memberText (level + 1)) ns
    simp only [List.length_append, List.length_cons]
    omega

/-! ## Documents -/

/-- A printed text and its last line feed make up the whole document. -/
theorem document_of_takes {read : Reader α} (h : Takes read text x) :
    document read (String.ofList (text ++ ['\n'])) = .ok x := by
  have hclosing : Closing ['\n'] := by
    rintro c ⟨⟩
    exact .inr rfl
  have hread : read.run (text ++ ['\n']) = .ok (x, ['\n']) := h blank_nil hclosing
  unfold document
  rw [String.toList_ofList, StateT.run'_eq, run_bind_of_ok hread]
  rfl

end Lookalike.Json
