/-!
# Reading UTF-8

Bytes are read as characters. Where they are no well-formed UTF-8, the longest start of a
character, or else a single byte, is one flaw. Overlong forms, surrogates and code points beyond
the last one have no well-formed start longer than a byte.

## Main definitions

* `Utf8.read` — the characters and flaws of bytes.
* `Utf8.decode?` — the text of well-formed bytes.
* `Utf8.decodeLossy` — the text of any bytes, with a replacement character for each flaw.
-/

namespace Lookalike.Utf8

/-- What the first byte of a character of several bytes says. -/
structure Lead where
  bits : Nat
  following : Nat
  low : UInt8
  high : UInt8

/-- What a byte says as the first one of a character of several bytes. -/
def lead? (b : UInt8) : Option Lead :=
  let n := b.toNat
  if 0xc2 ≤ n ∧ n ≤ 0xdf then some ⟨n - 0xc0, 1, 0x80, 0xbf⟩
  else if 0xe0 ≤ n ∧ n ≤ 0xef then
    some ⟨n - 0xe0, 2, if n = 0xe0 then 0xa0 else 0x80, if n = 0xed then 0x9f else 0xbf⟩
  else if 0xf0 ≤ n ∧ n ≤ 0xf4 then
    some ⟨n - 0xf0, 3, if n = 0xf0 then 0x90 else 0x80, if n = 0xf4 then 0x8f else 0xbf⟩
  else none

/-- Up to `n` bytes that continue a character, the first of them within the given bounds. -/
def continuation (low high : UInt8) : Nat → List UInt8 → List UInt8
  | n + 1, b :: bs => if low ≤ b ∧ b ≤ high then b :: continuation 0x80 0xbf n bs else []
  | _, _ => []

/-- The characters of bytes, with nothing in the place of each flaw. -/
def read : List UInt8 → List (Option Char)
  | [] => []
  | b :: rest =>
    if b < 0x80 then some (Char.ofNat b.toNat) :: read rest
    else
      match lead? b with
      | none => none :: read rest
      | some lead =>
        let bytes := continuation lead.low lead.high lead.following rest
        let char :=
          if bytes.length = lead.following then
            some (Char.ofNat (bytes.foldl (fun n c => n * 64 + (c.toNat - 0x80)) lead.bits))
          else none
        char :: read (rest.drop bytes.length)
termination_by bs => bs.length
decreasing_by all_goals grind

def decode? (bytes : List UInt8) : Option String := ((read bytes).mapM id).map String.ofList

/-- The text of any bytes, with a replacement character for each flaw. -/
def decodeLossy (bytes : List UInt8) : String :=
  String.ofList ((read bytes).map fun c => c.getD '\ufffd')

def encode (text : String) : List UInt8 := text.toList.flatMap String.utf8EncodeChar

end Lookalike.Utf8
