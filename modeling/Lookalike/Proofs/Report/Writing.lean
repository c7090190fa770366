import Lookalike.Proofs.Json.RoundTrip
import Lookalike.Report.Writing

/-!
# What writers write

An action that writes piece by piece does the same to a sink as one that offers all of the text at
once: also where the text is cut in two, the sink takes what it has room for, and the same failure
ends the action. The actions of reports and analyses write their renderings.

## Main definitions

* `Writes` — the text that an action writes.

## Main statements

* `Writes.andThen`, `Writes.forM` — actions one after the other.
* `Json.Value.writes` — the text of a JSON value.
* `Report.writes_writePlain`, `Report.writes_writeMarkdown` — the texts of a report.
* `perform_writeDocument` — a document on a sink comes to what its two pieces come to.
-/

namespace Lookalike

/-! ## Outlets -/

section Outlets

variable {ε : Type} {f : IoFault → ε} {o : Outlet} {as bs : List UInt8}

@[simp, grind =] theorem Outlet.room_push : (o.push bs).sink.room = o.sink.room - bs.length := rfl

@[simp, grind =] theorem Outlet.fault_push : (o.push bs).sink.fault = o.sink.fault := rfl

@[simp, grind =] theorem Outlet.push_nil : o.push [] = o := by simp [push]

@[grind =] theorem Outlet.push_append : o.push (as ++ bs) = (o.push as).push bs := by
  simp [push, Nat.sub_sub, List.take_append]

theorem Outlet.push_of_full (h : o.sink.room = 0) : o.push bs = o := by
  obtain ⟨⟨room, fault⟩, taken⟩ := o
  obtain rfl : room = 0 := h
  simp [push]

/-- Offers bytes and fails as `f` says if they do not all fit. -/
def Outlet.offer (f : IoFault → ε) (o : Outlet) (bytes : List UInt8) : Except ε Unit × Outlet :=
  (if bytes.length ≤ o.sink.room then .ok () else .error (f o.sink.fault), o.push bytes)

/-- The second part is offered only if the first one fits. Nothing of it would fit otherwise. -/
theorem Outlet.offer_append : o.offer f (as ++ bs) =
    match o.offer f as with
    | (.ok _, o') => o'.offer f bs
    | (.error e, o') => (.error e, o') := by
  simp only [offer, push_append, List.length_append]
  by_cases h : as.length ≤ o.sink.room
  · have hfits : (as.length + bs.length ≤ o.sink.room) = (bs.length ≤ o.sink.room - as.length) := by
      grind
    simp only [h, if_true, room_push, fault_push]
    exact congrArg (·, _) (if_congr (iff_of_eq hfits) rfl rfl)
  · have hfits : ¬ as.length + bs.length ≤ o.sink.room := by omega
    have hfull : (o.push as).sink.room = 0 := by
      rw [room_push]
      omega
    simp [h, hfits, push_of_full hfull]

end Outlets

/-! ## Actions that write a text -/

/-- The action does no more than offer a text to the sink, and reports a failure as `f` says. -/
def Writes {ε : Type} (f : IoFault → ε) (x : Writing ε Unit) (text : List Char) : Prop :=
  ∀ o : Outlet, x.run.run o = o.offer f (text.flatMap String.utf8EncodeChar)

namespace Writes

variable {ε δ : Type} {f : IoFault → ε} {x y : Writing ε Unit} {a b : List Char}

/-- A piece of text is written as far as there is room for it. -/
protected theorem put (a : List Char) : Writes id (put a) a := by
  intro o
  generalize hbytes : a.flatMap String.utf8EncodeChar = bytes
  have hrun : (put a).run.run o =
      (if o.sink.room < bytes.length then throw o.sink.fault else pure () :
        Writing IoFault Unit).run.run (o.push bytes) := by
    subst hbytes
    rfl
  rw [hrun, Outlet.offer]
  by_cases h : bytes.length ≤ o.sink.room
  · rw [if_neg (Nat.not_lt_of_le h), if_pos h]
    rfl
  · rw [if_pos (Nat.lt_of_not_le h), if_neg h]
    rfl

theorem nil : Writes f (pure ()) [] := by
  intro o
  simp [Outlet.offer]
  rfl

/-- The second action is begun only if the first one succeeds. -/
theorem run_andThen (x y : Writing ε Unit) (o : Outlet) : (do x; y).run.run o =
    match x.run.run o with
    | (.ok _, o') => y.run.run o'
    | (.error e, o') => (.error e, o') := by
  simp only [ExceptT.run_bind, StateT.run_bind]
  rcases x.run.run o with ⟨_ | _, _⟩ <;> rfl

/-- Two actions one after the other write their texts one after the other, and the second is left
out when the first fails. -/
theorem andThen (hx : Writes f x a) (hy : Writes f y b) : Writes f (do x; y) (a ++ b) := by
  intro o
  rw [run_andThen, hx o, List.flatMap_append, Outlet.offer_append]
  rcases o.offer f (a.flatMap String.utf8EncodeChar) with ⟨_ | _, o'⟩
  · rfl
  · exact hy o'

theorem adapt {g : ε → δ} (hx : Writes f x a) : Writes (g ∘ f) (ExceptT.adapt g x) a := by
  intro o
  have hrun : (ExceptT.adapt g x).run.run o = Prod.map (Except.mapError g) id (x.run.run o) := rfl
  rw [hrun, hx o]
  simp only [Outlet.offer, Prod.map, apply_ite (Except.mapError g)]
  rfl

theorem of_eq (hx : Writes f x a) (h : a = b) : Writes f x b := h ▸ hx

/-- A loop writes the texts of its turns in a row and ends at the first turn that fails. -/
theorem forM {α : Type} {act : α → Writing ε Unit} {text : α → List Char} (xs : List α)
    (h : ∀ e, Writes f (act e) (text e)) : Writes f (xs.forM act) (xs.flatMap text) := by
  induction xs with
  | nil => exact nil
  | cons e es ih => exact (h e).andThen ih

end Writes

/-! ## JSON -/

namespace Json

variable {level : Nat} {v : Value} {k : String}

theorem writes_writeString (s : String) : Writes id (writeString s) (stringText s) := by
  have hchars := Writes.forM s.toList fun c => Writes.put (charText c)
  exact (Writes.put ['"']).andThen (hchars.andThen (.put ['"']))

theorem writes_writeIndent (level : Nat) :
    Writes id (writeIndent level) (List.replicate (2 * level) ' ') := by
  apply (Writes.forM (List.replicate level [' ', ' ']) Writes.put).of_eq
  induction level with
  | zero => rfl
  | succ n ih =>
    rw [List.replicate_succ, List.flatMap_cons, ih]
    rfl

theorem writes_startEntry_true (level : Nat) :
    Writes id (startEntry true level) (lineBreak level) :=
  (Writes.put ['\n']).andThen (writes_writeIndent level)

theorem writes_startEntry_false (level : Nat) :
    Writes id (startEntry false level) (',' :: lineBreak level) :=
  (Writes.put [',', '\n']).andThen (writes_writeIndent level)

theorem writes_finish_true (level : Nat) (bracket : Char) :
    Writes id (finish true level bracket) [bracket] := .put [bracket]

theorem writes_finish_false (level : Nat) (bracket : Char) :
    Writes id (finish false level bracket) (lineBreak level ++ [bracket]) :=
  ((Writes.put ['\n']).andThen ((writes_writeIndent level).andThen (.put [bracket])))

namespace Value

mutual

/-- Writing a JSON value as it is printed gives the text of `Value.pretty`. -/
theorem writes (level : Nat) : (v : Value) → Writes id (v.write level) (v.pretty level)
  | .null => .put _
  | .natural _ => .put _
  | .number _ => .put _
  | .string s => writes_writeString s
  | .array [] => (Writes.put ['[']).andThen (Writes.nil.andThen (writes_finish_true level ']'))
  | .array (v :: vs) => by
    have hitems := (writes_startEntry_true (level + 1)).andThen
      ((writes (level + 1) v).andThen (writes_later (level + 1) vs))
    apply ((Writes.put ['[']).andThen (hitems.andThen (writes_finish_false level ']'))).of_eq
    simp [pretty, itemText]
  | .object [] =>
    (Writes.put ['\x7b']).andThen (Writes.nil.andThen (writes_finish_true level '\x7d'))
  | .object ((k, v) :: ms) => by
    have hmembers := (writes_startEntry_true (level + 1)).andThen
      ((writes_writeString k).andThen ((Writes.put [':', ' ']).andThen
        ((writes (level + 1) v).andThen (writes_laterMembers (level + 1) ms))))
    apply ((Writes.put ['\x7b']).andThen
      (hmembers.andThen (writes_finish_false level '\x7d'))).of_eq
    simp [pretty, memberText]

theorem writes_later (level : Nat) : (vs : List Value) →
    Writes id (writeItems level false vs) (later (itemText level) vs)
  | [] => .nil
  | v :: vs => by
    apply ((writes_startEntry_false level).andThen
      ((writes level v).andThen (writes_later level vs))).of_eq
    simp [later, itemText]

theorem writes_laterMembers (level : Nat) : (ms : List (String × Value)) →
    Writes id (writeMembers level false ms) (later (memberText level) ms)
  | [] => .nil
  | (k, v) :: ms => by
    apply ((writes_startEntry_false level).andThen ((writes_writeString k).andThen
      ((Writes.put [':', ' ']).andThen
        ((writes level v).andThen (writes_laterMembers level ms))))).of_eq
    simp [later, memberText]

end

end Value

end Json

/-! ## Reports -/

theorem writes_print (texts : List String) :
    Writes .io (print texts) (texts.flatMap String.toList) :=
  (Writes.forM texts fun text => Writes.put text.toList).adapt

namespace Report

theorem writes_printRegion (r : Region) (number : Nat) :
    Writes .io (printRegion r number) (plainRegion r number).toList := by
  apply (writes_print _).of_eq
  simp [plainRegion]

theorem writes_printRow (r : Region) (number : Nat) :
    Writes .io (printRow r number) (markdownRow r number).toList := by
  apply (writes_print _).of_eq
  simp [markdownRow]

theorem writes_writePlain (r : Report) :
    Writes .io r.writePlain (r.plainPieces.flatMap String.toList) := by
  have hregions := Writes.forM (r.regions.zipIdx 1) fun e => writes_printRegion e.1 e.2
  apply ((writes_print _).andThen hregions).of_eq
  simp [plainPieces, List.flatMap_map]

/-- A report is written in Markdown as its pieces say. -/
theorem writes_writeMarkdown (level : Nat) (r : Report) :
    Writes .io (r.writeMarkdown level) ((r.markdownPieces level).flatMap String.toList) := by
  cases h : r.regions.isEmpty with
  | true =>
    have hend := (writes_print ["_No matching regions_\n\n"]).andThen Writes.nil
    simp only [writeMarkdown, h, if_true]
    apply ((writes_print _).andThen ((writes_print _).andThen hend)).of_eq
    simp [markdownPieces, h]
  | false =>
    have hrows := Writes.forM (r.regions.zipIdx 1) fun e => writes_printRow e.1 e.2
    have hend := (writes_print ["| # | Source | Target |\n"]).andThen
      ((writes_print ["| --- | --- | --- |\n"]).andThen (hrows.andThen (writes_print ["\n"])))
    simp only [writeMarkdown, h]
    apply ((writes_print _).andThen ((writes_print _).andThen hend)).of_eq
    simp [markdownPieces, h, List.flatMap_map]

end Report

namespace Analysis

theorem writes_writePlain (a : Analysis) :
    Writes .io a.writePlain (a.plainPieces.flatMap String.toList) := by
  have hreports := Writes.forM a.reports Report.writes_writePlain
  apply ((writes_print _).andThen hreports).of_eq
  simp [plainPieces, List.flatMap_assoc]

theorem writes_writeMarkdown (a : Analysis) :
    Writes .io a.writeMarkdown (a.markdownPieces.flatMap String.toList) := by
  have hreports := Writes.forM a.reports (Report.writes_writeMarkdown 2)
  cases h : a.reports.isEmpty with
  | true =>
    have hend := (writes_print ["_No similar pairs_\n\n"]).andThen hreports
    simp only [writeMarkdown, h, if_true]
    apply ((writes_print _).andThen ((writes_print _).andThen ((writes_print _).andThen
      ((writes_print _).andThen hend)))).of_eq
    simp [markdownPieces, h, List.flatMap_assoc]
  | false =>
    simp only [writeMarkdown, h]
    apply ((writes_print _).andThen ((writes_print _).andThen ((writes_print _).andThen
      ((writes_print _).andThen hreports)))).of_eq
    simp [markdownPieces, h, List.flatMap_assoc]

end Analysis

/-! ## Sinks -/

section Sinks

variable {p q : Piece} {x y : Writing Failure Unit}

/-- An action that writes the text of one piece leaves the sink as writing that piece does. -/
theorem Sink.perform_eq_write (hx : Writes (p.failure ·) x p.text.toList) (s : Sink) :
    s.perform x = s.write [p] := by
  have hrun : x.run.run ⟨s, []⟩ = Outlet.offer (p.failure ·) ⟨s, []⟩ p.bytes := hx ⟨s, []⟩
  rw [perform, hrun, Outlet.offer, Outlet.push, write]
  by_cases h : p.bytes.length ≤ s.room
  · simp [h, write, List.take_of_length_le h]
  · simp [h]

/-- Actions that fail in different ways are pieces of their own. -/
theorem Sink.perform_andThen (hx : Writes (p.failure ·) x p.text.toList)
    (hy : Writes (q.failure ·) y q.text.toList) (s : Sink) :
    s.perform (do x; y) = s.write [p, q] := by
  have hrun : x.run.run ⟨s, []⟩ = Outlet.offer (p.failure ·) ⟨s, []⟩ p.bytes := hx ⟨s, []⟩
  have hlater (o : Outlet) : y.run.run o = o.offer (q.failure ·) q.bytes := hy o
  rw [perform, Writes.run_andThen, hrun, Outlet.offer, Outlet.push, write]
  by_cases hp : p.bytes.length ≤ s.room
  · have htake : p.bytes.take s.room = p.bytes := List.take_of_length_le hp
    simp only [hp, if_true, hlater, Outlet.offer, Outlet.push, htake, write]
    by_cases hq : q.bytes.length ≤ s.room - p.bytes.length
    · simp [hq, List.take_of_length_le hq]
    · simp [hq]
  · simp [hp]

/-- Writing a document through the serializer, then the line feed, is writing the two pieces. -/
theorem perform_writeDocument (v : Json.Value) (s : Sink) :
    s.perform (writeDocument v) = s.write (documentPieces v) := by
  apply Sink.perform_andThen
  · apply (v.writes 0).adapt.of_eq
    exact String.toList_ofList.symm
  · exact writes_print ["\n"]

@[simp] theorem renderedText_documentPieces (v : Json.Value) :
    renderedText (documentPieces v) = String.ofList (v.pretty 0 ++ ['\n']) := by
  apply String.toList_injective
  simp [renderedText, documentPieces, Piece.text]

end Sinks

end Lookalike
