import Enrich.CharSet.Edges

/-!
# Encoded characters

The encoded form of a set of characters: a list of byte sequences, each byte of which runs through a
range of its own. A run of code points is cut where the number of bytes changes and where its ends
do not run through whole blocks of 64, 64² and 64³ code points.
-/

namespace Enrich

/-- The bytes from `lo` to `hi`, both included. -/
structure ByteRange where
  lo : Nat
  hi : Nat
  deriving DecidableEq, Ord, Repr

namespace Utf8

/-- The bytes that encode a code point. -/
def encode (c : Nat) : List Nat :=
  if c < 0x80 then [c]
  else if c < 0x800 then [0xC0 + c / 0x40, 0x80 + c % 0x40]
  else if c < 0x10000 then [0xE0 + c / 0x1000, 0x80 + c / 0x40 % 0x40, 0x80 + c % 0x40]
  else [0xF0 + c / 0x40000, 0x80 + c / 0x1000 % 0x40, 0x80 + c / 0x40 % 0x40, 0x80 + c % 0x40]

/-- The last code point with as many bytes as `c`. -/
def lastOfLength (c : Nat) : Nat :=
  if c < 0x80 then 0x7F
  else if c < 0x800 then 0x7FF
  else if c < 0x10000 then 0xFFFF
  else 0x10FFFF

/-- Shortens the run from `lo` to `hi` so that it lies in one block of `size` code points or runs
through whole blocks. -/
def cutToBlocks (size lo hi : Nat) : Nat :=
  if lo / size = hi / size then hi
  else if lo % size ≠ 0 then (lo / size + 1) * size - 1
  else if hi % size ≠ size - 1 then hi / size * size - 1
  else hi

/-- The end of the longest run from `lo` that one byte sequence stands for and that ends at `hi` or
before it. -/
def runEnd (lo hi : Nat) : Nat :=
  let hi := Nat.min hi (lastOfLength lo)
  if lo < 0x80 then hi
  else cutToBlocks 0x40000 lo (cutToBlocks 0x1000 lo (cutToBlocks 0x40 lo hi))

/-- The byte sequence for a run of code points that needs only one. -/
def runBytes (lo hi : Nat) : List ByteRange :=
  List.zipWith ByteRange.mk (encode lo) (encode hi)

/-- The byte sequences for the code points from `lo` to `hi`, at most `fuel` of them. -/
def runSequences : Nat → Nat → Nat → List (List ByteRange)
  | 0, _, _ => []
  | fuel + 1, lo, hi =>
    if hi < lo then []
    else runBytes lo (runEnd lo hi) :: runSequences fuel (runEnd lo hi + 1) hi

/-- The byte sequences for the characters between some edges, in increasing order. -/
def sequences (es : Edges) : List (List ByteRange) :=
  es.ranges.flatMap fun r => runSequences (r.hi + 1 - r.lo) r.lo r.hi

end Utf8

end Enrich
