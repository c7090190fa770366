import Lookalike.Proofs.Report.Writing
import Lookalike.Proofs.Text.Bytes

/-!
# Sinks that run full

A sink takes the bytes of a rendering as far as it has room, and nothing behind them. The failure is
that of the piece to which the first byte belongs that finds no room, so it does not depend on where
else the rendering is cut into pieces. The actions that write reports do the same to a sink.

## Main definitions

* `marks` — the bytes of a rendering, each with its kind.
* `Recut` — the same bytes of the same kinds, in other pieces.
* `IsRendering` — the action and the pieces of a report or an analysis.

## Main statements

* `Sink.write_eq` — what a sink takes and how it fails.
* `IsRendering.perform_eq_write` — what comes of an action on a sink.
* `write_recut` — what comes of writing a report or an analysis.
-/

namespace Lookalike

variable {p : Piece} {ps qs : List Piece} {action : Writing Failure Unit}

def Piece.isDocument : Piece → Bool
  | .document _ => true
  | .plain _ => false

def unwritten (fault : IoFault) (inDocument : Bool) : Failure :=
  if inDocument then .serialization (.unwritable fault) else .io fault

@[simp] theorem unwritten_eq_serialization {fault : IoFault} {inDocument : Bool} :
    unwritten fault inDocument = .serialization (.unwritable fault) ↔ inDocument = true := by
  cases inDocument <;> simp [unwritten]

@[simp] theorem unwritten_eq_io {fault : IoFault} {inDocument : Bool} :
    unwritten fault inDocument = .io fault ↔ inDocument = false := by
  cases inDocument <;> simp [unwritten]

/-- The bytes of a rendering, and whether each belongs to a JSON document. -/
def marks (ps : List Piece) : List (UInt8 × Bool) :=
  ps.flatMap fun p => p.bytes.map (·, p.isDocument)

/-- The pieces hold the same bytes of the same kinds, wherever they are cut. -/
def Recut (ps qs : List Piece) : Prop := marks ps = marks qs

instance (ps qs : List Piece) : Decidable (Recut ps qs) := inferInstanceAs (Decidable (_ = _))

@[simp, grind =] theorem marks_nil : marks [] = [] := rfl

@[simp, grind =] theorem marks_cons (p : Piece) (ps : List Piece) :
    marks (p :: ps) = p.bytes.map (·, p.isDocument) ++ marks ps := rfl

@[simp] theorem Piece.failure_eq (fault : IoFault) (p : Piece) :
    p.failure fault = unwritten fault p.isDocument := by
  cases p <;> rfl

/-- The bytes of the marks are the encoded text of all pieces. -/
@[simp] theorem map_fst_marks (ps : List Piece) :
    (marks ps).map Prod.fst = Utf8.encode (renderedText ps) := by
  simp [marks, renderedText, Utf8.encode, Piece.bytes, List.map_flatMap, List.flatMap_map,
    List.flatMap_assoc, Function.comp_def]

theorem length_marks (ps : List Piece) :
    (marks ps).length = (Utf8.encode (renderedText ps)).length := by
  rw [← map_fst_marks, List.length_map]

/-! ## Writing -/

/-- A sink takes bytes as far as it has room, and fails at the first byte that finds none. -/
theorem Sink.write_eq (s : Sink) (ps : List Piece) :
    s.write ps =
      ⟨((marks ps).take s.room).map Prod.fst, (marks ps)[s.room]?.map (unwritten s.fault ·.2)⟩ := by
  induction ps generalizing s with
  | nil => simp [write]
  | cons p ps ih =>
    have hlength : (p.bytes.map (·, p.isDocument)).length = p.bytes.length := List.length_map _
    rw [write, marks_cons]
    split
    · next h =>
      have htake : p.bytes.take s.room = p.bytes := List.take_of_length_le h
      rw [ih, List.take_append, List.getElem?_append_right (by omega), hlength]
      simp [← List.map_take, htake, Function.comp_def]
    · next h =>
      have hroom : s.room < p.bytes.length := Nat.lt_of_not_le h
      rw [List.take_append_of_le_length (by omega), List.getElem?_append_left (by omega)]
      simp [← List.map_take, Function.comp_def, hroom]

/-- It makes no difference for a sink where a rendering is cut. -/
theorem Recut.write_eq (h : Recut ps qs) (s : Sink) : s.write ps = s.write qs := by
  rw [Sink.write_eq, Sink.write_eq, h]

/-! ## Formats -/

/-- The action writes a report or an analysis, and the pieces are those of its rendering. -/
def IsRendering (f : Format) (action : Writing Failure Unit) (ps : List Piece) : Prop :=
  (∃ r : Report, r.write f = action ∧ r.render f = ps) ∨
    ∃ a : Analysis, a.write f = action ∧ a.render f = ps

theorem exists_documentPieces (h : IsRendering .json action ps) :
    ∃ v, writeDocument v = action ∧ documentPieces v = ps := by
  rcases h with ⟨r, rfl, rfl⟩ | ⟨a, rfl, rfl⟩
  · exact ⟨r.toJson, rfl, rfl⟩
  · exact ⟨a.toJson, rfl, rfl⟩

theorem exists_map_plain {f : Format} (h : IsRendering f action ps) (hf : f ≠ .json) :
    ∃ texts : List String,
      Writes .io action (texts.flatMap String.toList) ∧ texts.map Piece.plain = ps := by
  cases f with
  | json => exact absurd rfl hf
  | markdown =>
    rcases h with ⟨r, rfl, rfl⟩ | ⟨a, rfl, rfl⟩
    · exact ⟨_, r.writes_writeMarkdown 1, rfl⟩
    · exact ⟨_, a.writes_writeMarkdown, rfl⟩
  | text =>
    rcases h with ⟨r, rfl, rfl⟩ | ⟨a, rfl, rfl⟩
    · exact ⟨_, r.writes_writePlain, rfl⟩
    · exact ⟨_, a.writes_writePlain, rfl⟩

@[simp] theorem recut_join (texts : List String) :
    Recut [.plain (String.join texts)] (texts.map .plain) := by
  simp [Recut, marks, Piece.bytes, Utf8.encode, Piece.text, Piece.isDocument, List.flatMap_map,
    List.map_flatMap, List.flatMap_assoc]

/-- An action does the same to a sink as the pieces of its rendering. -/
theorem IsRendering.perform_eq_write {f : Format} (h : IsRendering f action ps) (s : Sink) :
    s.perform action = s.write ps := by
  by_cases hf : f = .json
  · subst hf
    obtain ⟨v, rfl, rfl⟩ := exists_documentPieces h
    exact perform_writeDocument v s
  · obtain ⟨texts, htexts, rfl⟩ := exists_map_plain h hf
    rw [← (recut_join texts).write_eq]
    apply Sink.perform_eq_write
    apply htexts.of_eq
    exact String.toList_join.symm

/-- All of a JSON rendering but the line feed at its end belongs to the document. -/
theorem marks_documentPieces (v : Json.Value) :
    marks (documentPieces v) =
      (Piece.document (String.ofList (v.pretty 0))).bytes.map (·, true) ++ [(10, false)] := rfl

theorem snd_of_mem_marks_map_plain {texts : List String} {m : UInt8 × Bool}
    (hm : m ∈ marks (texts.map .plain)) : m.2 = false := by
  simp only [marks, List.mem_flatMap, List.mem_map] at hm
  obtain ⟨p, ⟨text, -, rfl⟩, b, -, rfl⟩ := hm
  rfl

/-- In a JSON rendering all bytes but the last one belong to a document, in others none does. -/
theorem snd_getElem_marks {f : Format} (h : IsRendering f action ps) {i : Nat}
    (hi : i < (marks ps).length) :
    (marks ps)[i].2 = decide (f = .json ∧ i + 1 < (marks ps).length) := by
  by_cases hf : f = .json
  · subst hf
    obtain ⟨v, -, rfl⟩ := exists_documentPieces h
    simp only [marks_documentPieces, List.length_append, List.length_map,
      List.length_singleton] at hi ⊢
    rcases Nat.lt_succ_iff_lt_or_eq.1 hi with hi | rfl
    · rw [List.getElem_append_left (by simpa using hi)]
      simp [hi]
    · rw [List.getElem_append_right (by simp)]
      simp
  · obtain ⟨texts, -, rfl⟩ := exists_map_plain h hf
    simpa [hf] using snd_of_mem_marks_map_plain (List.getElem_mem hi)

/-- How writing a rendering fails if there is no room for all of it. -/
theorem failure_write {f : Format} (h : IsRendering f action ps) (room : Nat) (fault : IoFault) :
    (Sink.write ⟨room, fault⟩ ps).failure =
      if room < (marks ps).length then
        some (unwritten fault (f = .json ∧ room + 1 < (marks ps).length))
      else none := by
  rw [Sink.write_eq]
  split
  · next hroom => simp [List.getElem?_eq_getElem hroom, snd_getElem_marks h hroom]
  · next hroom => simpa using hroom

/-- Writing a report or an analysis leaves in a sink what it has room for, and nothing behind it,
and so does the rendering, wherever it is cut into pieces. Writing succeeds exactly if there is room
for all. Otherwise the sink itself is reported to fail, except inside of a JSON document, where
writing the document fails: a JSON rendering ends with a line feed that is no part of the
document. -/
theorem write_recut {f : Format} {rendering : List Piece} (h : IsRendering f action rendering)
    (hps : Recut rendering ps) (room : Nat) (fault : IoFault) :
    let whole := Utf8.encode (renderedText rendering)
    let written := Sink.write ⟨room, fault⟩ ps
    Sink.perform ⟨room, fault⟩ action = written ∧
      written.bytes = whole.take (min room whole.length) ∧
      (written.failure = none ↔ whole.length ≤ room) ∧
      (written.failure = some (.serialization (.unwritable fault)) ↔
        f = .json ∧ room + 1 < whole.length) ∧
      (written.failure = some (.io fault) ↔
        f = .json ∧ room + 1 = whole.length ∨ f ≠ .json ∧ room < whole.length) := by
  intro whole written
  have hwritten : written = Sink.write ⟨room, fault⟩ rendering := (hps.write_eq _).symm
  have hfailure : written.failure = _ := hwritten ▸ failure_write h room fault
  rw [length_marks] at hfailure
  refine ⟨?_, ?_, ?_, ?_, ?_⟩
  · rw [hwritten, h.perform_eq_write]
  · rw [hwritten, Sink.write_eq, List.map_take, map_fst_marks, List.take_eq_take_min]
  · simp [hfailure, whole]
  · simp only [hfailure, Option.ite_none_right_eq_some, Option.some_inj,
      unwritten_eq_serialization, decide_eq_true_eq]
    grind
  · simp only [hfailure, Option.ite_none_right_eq_some, Option.some_inj, unwritten_eq_io,
      decide_eq_false_iff_not]
    grind

def twinReport : Report :=
  ⟨some "é.py", none, 0.75,
    [⟨[⟨⟨4, 1⟩, ⟨7, 33⟩⟩], [⟨⟨8, 1⟩, ⟨11, 31⟩⟩, ⟨⟨14, 5⟩, ⟨14, 9⟩⟩]⟩]⟩

def characterPieces (v : Json.Value) : List Piece :=
  (v.pretty 0).map (fun c => .document (String.ofList [c])) ++ [.plain "\n"]

/-- A JSON document may be cut after every character. -/
@[simp]
theorem recut_characterPieces (v : Json.Value) : Recut (documentPieces v) (characterPieces v) := by
  simp [Recut, marks, documentPieces, characterPieces, Piece.bytes, Utf8.encode, Piece.text,
    Piece.isDocument, List.flatMap_map, List.map_flatMap]

theorem encode_documentPieces (v : Json.Value) :
    Utf8.encode (renderedText (documentPieces v)) =
      (v.pretty 0 ++ ['\n']).flatMap String.utf8EncodeChar := by
  rw [renderedText_documentPieces, Utf8.encode, String.toList_ofList]

/-- A document fails in one way in the middle of a character, and in another one at the line feed
behind it. Plain text fails behind the number of the region. -/
theorem write_recut_twinReport :
    (IsRendering .json (twinReport.write .json) (twinReport.render .json) ∧
      Recut (twinReport.render .json) (characterPieces twinReport.toJson) ∧
      (Sink.write ⟨15, .notFound⟩ (characterPieces twinReport.toJson)).bytes =
        Utf8.encode "\x7b\n  \"file1\": \"" ++ [0xc3] ∧
      (Sink.write ⟨15, .notFound⟩ (characterPieces twinReport.toJson)).failure =
        some (.serialization (.unwritable .notFound)) ∧
      (Sink.write ⟨501, .notFound⟩ (characterPieces twinReport.toJson)).failure =
        some (.io .notFound)) ∧
    IsRendering .text (twinReport.write .text) (twinReport.render .text) ∧
      (Sink.perform ⟨29, .notFound⟩ (twinReport.write .text)).bytes =
        Utf8.encode "é.py vs target: 75.00%\n  [1]" ∧
      (Sink.perform ⟨29, .notFound⟩ (twinReport.write .text)).failure = some (.io .notFound) := by
  have hjson : IsRendering .json (twinReport.write .json) (twinReport.render .json) :=
    .inl ⟨twinReport, rfl, rfl⟩
  have hdocument : Utf8.encode (renderedText (twinReport.render .json)) =
      (twinReport.toJson.pretty 0 ++ ['\n']).flatMap String.utf8EncodeChar :=
    encode_documentPieces twinReport.toJson
  have hlength : (Utf8.encode (renderedText (twinReport.render .json))).length = 502 := by
    rw [hdocument, length_flatMap_utf8EncodeChar]
    decide +kernel
  have hcut := recut_characterPieces twinReport.toJson
  obtain ⟨-, hbytes, -, hserialization, -⟩ := write_recut hjson hcut 15 .notFound
  obtain ⟨-, -, -, -, hio⟩ := write_recut hjson hcut 501 .notFound
  have htext : IsRendering .text (twinReport.write .text) (twinReport.render .text) :=
    .inl ⟨twinReport, rfl, rfl⟩
  obtain ⟨hperform, hrow, -, -, hfull⟩ := write_recut htext rfl 29 .notFound
  refine ⟨⟨hjson, hcut, ?_, ?_, ?_⟩, htext, ?_, ?_⟩
  · rw [hbytes, hlength, hdocument]
    decide +kernel
  · rw [hserialization, hlength]
    decide
  · rw [hio, hlength]
    decide
  · rw [hperform, hrow]
    decide +kernel
  · rw [hperform, hfull]
    decide +kernel

end Lookalike
