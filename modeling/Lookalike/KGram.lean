import Lookalike.Span
import Lookalike.Token

/-!
# Hashes of k-grams

Every run of `k` consecutive tokens gets a hash, a polynomial in the hashes of its tokens modulo
a prime. Going from one run to the next removes the term of the token that leaves and adds the
one that enters. All arithmetic is in 64-bit words; the modulus is so small that nothing
overflows, and the result fits into 32 bits.

## Main definitions

* `TokenValue.hash` — the hash of a token.
* `KGram` — a hash with its place.
* `kgrams` — the k-grams of a list of tokens.
-/

namespace Lookalike

def charBase : UInt64 := 747287

def tokenBase : UInt64 := 4194301

def hashModulus : UInt64 := 33554393

namespace TokenValue

def hashStep (h : UInt64) (c : Char) : UInt64 :=
  ((h + c.val.toUInt64) * charBase) % hashModulus

def hashText (text : String) : UInt64 := text.toList.foldl hashStep 0

/-- The hash of a token: its class for names and literals, else that of its text. -/
def hash : TokenValue → UInt64
  | .identifier => 1
  | .number => 2
  | .string => 3
  | .keyword text => hashText text
  | .punctuation text => hashText text

end TokenValue

/-- The hash of a run of tokens, with its place. -/
structure KGram where
  hash : Nat
  position : Nat
  /-- From the start of its first token to the end of its last. -/
  span : Span
  deriving DecidableEq, Repr

def basePower : Nat → UInt64
  | 0 => 1
  | n + 1 => basePower n * tokenBase % hashModulus

def pushHash (h v : UInt64) : UInt64 := (h * tokenBase + v) % hashModulus

/-- Removes the token that leads a run from its hash, given the power of the base that the token
is multiplied by. -/
def popHash (leading h v : UInt64) : UInt64 :=
  (h + hashModulus - v * leading % hashModulus) % hashModulus

/-- The hashes of all runs, from that of the first one, the tokens that leave and those that
enter. -/
def rollHashes (leading : UInt64) (h : UInt64) : List UInt64 → List UInt64 → List UInt64
  | out :: outs, inn :: inns =>
    h :: rollHashes leading (pushHash (popHash leading h out) inn) outs inns
  | _, _ => [h]

/-- The hashes of all runs of `k` tokens, for `0 < k` and no more than there are tokens. -/
def runHashes (k : Nat) (values : List UInt64) : List UInt64 :=
  rollHashes (basePower (k - 1)) ((values.take k).foldl pushHash 0) values (values.drop k)

/-- The k-grams of a list of tokens in document order. There are none if `k` is zero or larger
than the number of tokens. -/
def kgrams (tokens : List Token) (k : Nat) : List KGram :=
  if k = 0 ∨ tokens.length < k then []
  else
    let hashes := runHashes k (tokens.map (·.value.hash))
    let spans := tokens.zipWith (fun first last => (⟨first.start, last.stop⟩ : Span))
      (tokens.drop (k - 1))
    (hashes.zip spans).zipIdx.map fun ((h, span), i) => ⟨h.toUInt32.toNat, i, span⟩

end Lookalike
