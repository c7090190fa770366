import Lookalike.Failure
import Lookalike.Report.Json
import Lookalike.Report.Plain
import Lookalike.Text.Utf8

/-!
# Writing reports

A rendering is a list of pieces that a sink takes one after the other. A sink may have room for a
number of bytes only. It then takes what fits of a piece and fails, and nothing follows.

## Main definitions

* `Piece` — a piece of a rendering.
* `Report.render`, `Analysis.render` — the pieces of the formats.
* `Sink`, `Sink.write` — what a sink takes.
-/

namespace Lookalike

/-- A piece of a rendering. Its kind says how a failure to write it is reported. -/
inductive Piece where
  | document (text : String)
  | plain (text : String)
  deriving DecidableEq, Repr

namespace Piece

def text : Piece → String
  | .document text => text
  | .plain text => text

def bytes (p : Piece) : List UInt8 := Utf8.encode p.text

def failure (fault : IoFault) : Piece → Failure
  | .document _ => .serialization (.unwritable fault)
  | .plain _ => .io fault

end Piece

def renderedText (pieces : List Piece) : String := String.join (pieces.map Piece.text)

def documentPieces (v : Json.Value) : List Piece :=
  [.document (String.ofList (v.pretty 0)), .plain "\n"]

def Report.render (r : Report) : Format → List Piece
  | .json => documentPieces r.toJson
  | .markdown => (r.markdownPieces 1).map Piece.plain
  | .text => r.plainPieces.map Piece.plain

def Analysis.render (a : Analysis) : Format → List Piece
  | .json => documentPieces a.toJson
  | .markdown => a.markdownPieces.map Piece.plain
  | .text => a.plainPieces.map Piece.plain

structure Sink where
  room : Nat
  /-- What it reports when there is no room left. -/
  fault : IoFault

/-- What comes of writing to a sink. -/
structure Written where
  bytes : List UInt8
  failure : Option Failure

def Sink.write (s : Sink) : List Piece → Written
  | [] => ⟨[], none⟩
  | p :: ps =>
    if p.bytes.length ≤ s.room then
      let later := Sink.write { s with room := s.room - p.bytes.length } ps
      ⟨p.bytes ++ later.bytes, later.failure⟩
    else ⟨p.bytes.take s.room, some (p.failure s.fault)⟩

end Lookalike
