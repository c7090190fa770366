import Lookalike.Fingerprints
import Lookalike.Lexed
import Lookalike.Pairing

/-!
# Overlap of two fingerprint sets

Fingerprints with the same hash in both files are collisions. Each hash found in both files is
the start of similar text; how many of them there are, measured by the smaller file, is the
score. Comments that both files hold word for word count like a shared hash.

A hash that occurs very often in both files is paired by rank instead of each with each, which
keeps the number of collisions linear.

## Main definitions

* `Bucket` — the fingerprints of both files that have one hash.
* `Overlap` — the buckets of all shared hashes and what the score is made of.
* `Overlap.score` — the score.
* `Overlap.collisions` — the pairs of fingerprints.
-/

namespace Lookalike

/-- A fingerprint of each file, both with the same hash. -/
structure Collision where
  source : KGram
  target : KGram
  deriving DecidableEq, Repr

/-- The fingerprints that have one hash, by position. -/
structure Bucket where
  hash : Nat
  sources : List KGram
  targets : List KGram
  deriving DecidableEq, Repr

/-- The largest number of pairs for which a hash is still paired each with each. -/
def exhaustivePairs : Nat := 64

def Bucket.collisions (p : Pairing) (b : Bucket) : List Collision :=
  let byRank := b.sources.zipWith Collision.mk b.targets
  match p with
  | .firstOnly => byRank.take 1
  | .crossProduct =>
    if b.sources.length * b.targets.length ≤ exhaustivePairs then
      b.sources.flatMap fun s => b.targets.map (Collision.mk s)
    else byRank

/-- What two sets of fingerprints and two sets of comments have in common. -/
structure Overlap where
  /-- The hashes found in both files, in ascending order. -/
  shared : List Bucket
  commonComments : Nat
  /-- The number of fingerprints of the file that has fewer. -/
  smaller : Nat

namespace Fingerprints

def hashes (f : Fingerprints) : List Nat := Ordered.ofList id (f.toList.map (·.hash))

def withHash (f : Fingerprints) (hash : Nat) : List KGram :=
  f.toList.filter (·.hash == hash)

end Fingerprints

namespace Overlap

def of (source target : Fingerprints) (sourceComments targetComments : CommentSet) : Overlap where
  shared := source.hashes.filterMap fun h =>
    match target.withHash h with
    | [] => none
    | t :: ts => some ⟨h, source.withHash h, t :: ts⟩
  commonComments := sourceComments.countCommon targetComments
  smaller := min source.size target.size

def commonHashes (o : Overlap) : Nat := o.shared.length

def numerator (o : Overlap) : Nat := o.commonHashes + o.commonComments

def denominator (o : Overlap) : Nat := o.smaller + o.commonComments

/-- The score: the shared hashes and comments as a part of the smaller file, or 0 for files that
have neither fingerprints nor a comment in common. -/
def score (o : Overlap) : Float :=
  if o.denominator = 0 then 0 else Float.ofNat o.numerator / Float.ofNat o.denominator

/-- The collisions, in ascending order of hash and positions. -/
def collisions (p : Pairing) (o : Overlap) : List Collision :=
  o.shared.flatMap (Bucket.collisions p)

end Overlap

end Lookalike
