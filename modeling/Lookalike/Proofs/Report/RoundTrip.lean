import Lookalike.Proofs.Report.Writing

/-!
# Reports read back

Every report and every analysis is read back from the document that is written for it, whatever
the names of the files are. The fields of spans may have their short names, here and there or
everywhere.

Lines and columns must be 32-bit words and counts 64-bit words, as they are in every report, and
the decimals of scores must read back.

## Main definitions

* `Json.Value.Abbreviated` — some fields of spans have their short names.
* `Report.Fits`, `Analysis.Fits` — what is asked of the numbers.

## Main results

* `document_renderedText` — documents of reports and of analyses are read back.
-/

namespace Lookalike

open Json (Value Reader FieldReader Reads Fills ReadsBack)

/-! ## Short names -/

def Span.shortNames : List (String × String) :=
  [("startLine", "sl"), ("startCol", "sc"), ("endLine", "el"), ("endCol", "ec")]

/-- A name of a member, or the short name that may stand for it. -/
def Abbreviates (name name' : String) : Prop :=
  name' = name ∨ Span.shortNames.lookup name = some name'

/-- The same value, in which some fields of spans have their short names. -/
abbrev Json.Value.Abbreviated : Value → Value → Prop := Value.Renamed Abbreviates

/-- A value with all its names written out is one of its own abbreviations. -/
@[simp]
theorem abbreviated_refl (v : Value) : v.Abbreviated v := Value.Renamed.refl (fun _ => .inl rfl) v

/-! ## What fits -/

def Span.Fits (s : Span) : Prop :=
  s.start.line < coordinateBound ∧ s.start.column < coordinateBound ∧
    s.stop.line < coordinateBound ∧ s.stop.column < coordinateBound

instance (s : Span) : Decidable s.Fits := by unfold Span.Fits; infer_instance

def Region.Fits (r : Region) : Prop := (∀ s ∈ r.source, s.Fits) ∧ ∀ s ∈ r.target, s.Fits

instance (r : Region) : Decidable r.Fits := by unfold Region.Fits; infer_instance

/-- The score reads back, and the regions fit. -/
def Report.Fits (r : Report) : Prop := ReadsBack r.score ∧ ∀ m ∈ r.regions, m.Fits

instance (r : Report) : Decidable r.Fits := by unfold Report.Fits; infer_instance

/-- Counts are 64-bit words, and the largest score reads back. -/
def Summary.Fits (s : Summary) : Prop :=
  s.files < sizeBound ∧ s.pairsCompared < sizeBound ∧ s.pairsReported < sizeBound ∧
    ReadsBack s.maxSimilarity

instance (s : Summary) : Decidable s.Fits := by unfold Summary.Fits; infer_instance

def Analysis.Fits (a : Analysis) : Prop := (∀ r ∈ a.reports, r.Fits) ∧ a.summary.Fits

instance (a : Analysis) : Decidable a.Fits := by unfold Analysis.Fits; infer_instance

/-! ## Reading the records -/

section

variable {k short : String} {P : String → Prop}

theorem forall_abbreviates_plain (hlookup : Span.shortNames.lookup k = none) (hk : P k) :
    ∀ k', Abbreviates k k' → P k' := by
  rintro k' (rfl | h)
  · exact hk
  · rw [hlookup] at h
    cases h

/-- What holds of a name and of its short form holds of all the names it may be written with. -/
theorem forall_abbreviates_short (hlookup : Span.shortNames.lookup k = some short) (hk : P k)
    (hshort : P short) : ∀ k', Abbreviates k k' → P k' := by
  rintro k' (rfl | h)
  · exact hk
  · rw [hlookup] at h
    cases h
    exact hshort

end

/-- The members of a span are found under either name. -/
theorem Span.reads {s : Span} (h : s.Fits) : Reads Abbreviates Span.reader s.toJson s := by
  obtain ⟨hline, hcolumn, hline', hcolumn'⟩ := h
  have hbound : coordinateBound ≤ UInt64.size := by decide
  refine Json.reads_record (d := ⟨some _, some _, some _, some _⟩) ?_ rfl
  refine .of (forall_abbreviates_short rfl rfl rfl) rfl (Json.reads_natural hline hbound) ?_
  refine .of (forall_abbreviates_short rfl rfl rfl) rfl (Json.reads_natural hcolumn hbound) ?_
  refine .of (forall_abbreviates_short rfl rfl rfl) rfl (Json.reads_natural hline' hbound) ?_
  refine .of (forall_abbreviates_short rfl rfl rfl) rfl (Json.reads_natural hcolumn' hbound) ?_
  exact .nil _

theorem Region.reads {r : Region} (h : r.Fits) : Reads Abbreviates Region.reader r.toJson r := by
  obtain ⟨hsource, htarget⟩ := h
  have hsource' := Json.reads_list_map fun s hs => Span.reads (hsource s hs)
  have htarget' := Json.reads_list_map fun s hs => Span.reads (htarget s hs)
  refine Json.reads_record (d := ⟨some _, some _⟩) ?_ rfl
  refine .of (forall_abbreviates_plain rfl rfl) rfl hsource' ?_
  refine .of (forall_abbreviates_plain rfl rfl) rfl htarget' ?_
  exact .nil _

@[simp] theorem reads_name (name : Option String) :
    Reads Abbreviates (Json.nullable Json.string) (nameToJson name) name := by
  cases name with
  | none => exact Json.reads_nullable_null _
  | some name => exact Json.reads_nullable_string name

/-- A report whose numbers fit is read back from its JSON value, under every choice of names. -/
theorem Report.reads {r : Report} (h : r.Fits) : Reads Abbreviates Report.reader r.toJson r := by
  obtain ⟨hscore, hregions⟩ := h
  have hregions' := Json.reads_list_map fun m hm => Region.reads (hregions m hm)
  refine Json.reads_record (d := ⟨some _, some _, some _, some _⟩) ?_ rfl
  refine .of (forall_abbreviates_plain rfl rfl) rfl (reads_name r.first) ?_
  refine .of (forall_abbreviates_plain rfl rfl) rfl (reads_name r.second) ?_
  refine .of (forall_abbreviates_plain rfl rfl) rfl (Json.reads_number hscore) ?_
  refine .of (forall_abbreviates_plain rfl rfl) rfl hregions' ?_
  exact .nil _

theorem Summary.reads {s : Summary} (h : s.Fits) :
    Reads Abbreviates Summary.reader s.toJson s := by
  obtain ⟨hfiles, hcompared, hreported, hscore⟩ := h
  have hbound : sizeBound ≤ UInt64.size := le_rfl
  refine Json.reads_record (d := ⟨some _, some _, some _, some _⟩) ?_ rfl
  refine .of (forall_abbreviates_plain rfl rfl) rfl (Json.reads_natural hfiles hbound) ?_
  refine .of (forall_abbreviates_plain rfl rfl) rfl (Json.reads_natural hcompared hbound) ?_
  refine .of (forall_abbreviates_plain rfl rfl) rfl (Json.reads_natural hreported hbound) ?_
  refine .of (forall_abbreviates_plain rfl rfl) rfl (Json.reads_number hscore) ?_
  exact .nil _

theorem Analysis.reads {a : Analysis} (h : a.Fits) :
    Reads Abbreviates Analysis.reader a.toJson a := by
  obtain ⟨hreports, hsummary⟩ := h
  have hreports' := Json.reads_list_map fun r hr => Report.reads (hreports r hr)
  refine Json.reads_record (d := ⟨some _, some _⟩) ?_ rfl
  refine .of (forall_abbreviates_plain rfl rfl) rfl hreports' ?_
  refine .of (forall_abbreviates_plain rfl rfl) rfl (Summary.reads hsummary) ?_
  exact .nil _

/-! ## Documents -/

theorem document_of_reads {α : Type} {read : Reader α} {v w : Value} {x : α}
    (h : Reads Abbreviates read v x) (hw : v.Abbreviated w) :
    Json.document read (renderedText (documentPieces w)) = .ok x := by
  rw [renderedText_documentPieces]
  exact Json.document_of_takes (h hw 0)

/-- What is written for a report or an analysis is read back as the same report or analysis, and so
is every document that differs from it only in short names of the fields of spans. -/
theorem document_renderedText :
    (∀ r : Report, r.Fits →
      Json.document Report.reader (renderedText (r.render .json)) = .ok r ∧
      ∀ v, r.toJson.Abbreviated v →
        Json.document Report.reader (renderedText (documentPieces v)) = .ok r) ∧
    ∀ a : Analysis, a.Fits →
      Json.document Analysis.reader (renderedText (a.render .json)) = .ok a ∧
      ∀ v, a.toJson.Abbreviated v →
        Json.document Analysis.reader (renderedText (documentPieces v)) = .ok a := by
  constructor
  · intro r h
    have hreads := Report.reads h
    exact ⟨document_of_reads hreads (abbreviated_refl _), fun v => document_of_reads hreads⟩
  · intro a h
    have hreads := Analysis.reads h
    exact ⟨document_of_reads hreads (abbreviated_refl _), fun v => document_of_reads hreads⟩

/-- A report on a file with an awkward name and a file without one. -/
def awkwardReport : Report :=
  ⟨some "a\"\\\n\x01😀.py", none, 0.75, [⟨[⟨⟨1, 1⟩, ⟨2, 5⟩⟩], [⟨⟨3, 1⟩, ⟨4294967295, 9⟩⟩]⟩]⟩

def awkwardSpanJson : Value :=
  .object [("sl", .natural 1), ("startCol", .natural 1), ("el", .natural 2), ("ec", .natural 5)]

def awkwardReportJson : Value :=
  .object [("file1", nameToJson awkwardReport.first), ("file2", nameToJson awkwardReport.second),
    ("similarity_score", .number awkwardReport.score), ("matches", .array [
      .object [("ss", .array [awkwardSpanJson]),
        ("ts", .array [Span.toJson ⟨⟨3, 1⟩, ⟨4294967295, 9⟩⟩])]])]

theorem abbreviated_awkwardReportJson : awkwardReport.toJson.Abbreviated awkwardReportJson := by
  have hrefl {v : Value} : v.Abbreviated v := abbreviated_refl v
  have hspan : (Span.toJson ⟨⟨1, 1⟩, ⟨2, 5⟩⟩).Abbreviated awkwardSpanJson :=
    .object (.cons (.inr rfl) (.cons (.inl rfl) (.cons (.inr rfl) (.cons (.inr rfl) .nil))))
      (.cons hrefl (.cons hrefl (.cons hrefl (.cons hrefl .nil))))
  refine .object (.cons (.inl rfl) (.cons (.inl rfl) (.cons (.inl rfl) (.cons (.inl rfl) .nil))))
    (.cons hrefl (.cons hrefl (.cons hrefl (.cons (.array (.cons ?_ .nil)) .nil))))
  exact .object (.cons (.inl rfl) (.cons (.inl rfl) .nil))
    (.cons (.array (.cons hspan .nil)) (.cons hrefl .nil))

/-- The report is read back from its own document, and an analysis from one with short names. -/
theorem document_renderedText_awkwardReport :
    let a : Analysis := ⟨[awkwardReport], ⟨2, 1, 1, 0.75⟩⟩
    let v : Value :=
      .object [("reports", .array [awkwardReportJson]), ("summary", a.summary.toJson)]
    awkwardReport.Fits ∧ a.Fits ∧ a.toJson.Abbreviated v ∧
      Json.document Report.reader (renderedText (awkwardReport.render .json)) = .ok awkwardReport ∧
      Json.document Analysis.reader (renderedText (documentPieces v)) = .ok a := by
  intro a v
  have hreport : awkwardReport.Fits := by decide +kernel
  have ha : a.Fits := by decide +kernel
  have hv : a.toJson.Abbreviated v :=
    .object (.cons (.inl rfl) (.cons (.inl rfl) .nil))
      (.cons (.array (.cons abbreviated_awkwardReportJson .nil))
        (.cons (abbreviated_refl _) .nil))
  exact ⟨hreport, ha, hv, (document_renderedText.1 awkwardReport hreport).1,
    (document_renderedText.2 a ha).2 v hv⟩

end Lookalike
