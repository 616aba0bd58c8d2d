import Enrich.CharSet

/-!
# Edges of a character set

A set of characters as the increasing list of the code points at which membership changes: the ends
of its ranges, with neighbouring ranges run together. Two sets with the same characters have the
same edges, and every operation on sets is one walk along the edges of its operands.
-/

namespace Enrich

/-- Code points at which membership of a set changes, in increasing order. -/
abbrev Edges := List Nat

namespace Edges

/-- Whether `c` is inside, where the code points before the first edge are so if `inside`. -/
def containsFrom (inside : Bool) : Edges → Nat → Bool
  | [], _ => inside
  | e :: es, c => if c < e then inside else containsFrom (!inside) es c

/-- Whether `c` belongs to the set. Nothing lies before the first edge. -/
def contains (es : Edges) (c : Nat) : Bool :=
  containsFrom false es c

/-- Keeps an edge if membership changes there from `old` to `new`. -/
def keepEdge (old new : Bool) (e : Nat) (es : Edges) : Edges :=
  if old == new then es else e :: es

/-- Walks along the edges of two sets and keeps those at which `op` of the two memberships changes;
`a` and `b` are the memberships where the walk stands. -/
def combineFrom (op : Bool → Bool → Bool) : Nat → Bool → Bool → Edges → Edges → Edges
  | fuel + 1, a, b, x :: xs, y :: ys =>
    if x < y then keepEdge (op a b) (op (!a) b) x (combineFrom op fuel (!a) b xs (y :: ys))
    else if y < x then keepEdge (op a b) (op a (!b)) y (combineFrom op fuel a (!b) (x :: xs) ys)
    else keepEdge (op a b) (op (!a) (!b)) x (combineFrom op fuel (!a) (!b) xs ys)
  | fuel + 1, a, b, x :: xs, [] =>
    keepEdge (op a b) (op (!a) b) x (combineFrom op fuel (!a) b xs [])
  | fuel + 1, a, b, [], y :: ys =>
    keepEdge (op a b) (op a (!b)) y (combineFrom op fuel a (!b) [] ys)
  | _, _, _, _, _ => []

/-- The code points whose memberships in two sets satisfy `op`, which two absences do not. -/
def combine (op : Bool → Bool → Bool) (xs ys : Edges) : Edges :=
  combineFrom op (xs.length + ys.length) false false xs ys

/-- The code points of both sets. -/
def union : Edges → Edges → Edges := combine (· || ·)

/-- The code points outside the set. -/
def compl : Edges → Edges
  | 0 :: es => es
  | es => 0 :: es

/-- The set of one code point. -/
def single (c : Nat) : Edges := [c, c + 1]

/-- Unites neighbours of a list two by two. -/
def unionPairs : List Edges → List Edges
  | a :: b :: rest => union a b :: unionPairs rest
  | rest => rest

/-- Unites the sets of a list, by rounds that halve the list. -/
def unionRounds : Nat → List Edges → Edges
  | _, [] => []
  | _, [a] => a
  | 0, _ => []
  | fuel + 1, sets => unionRounds fuel (unionPairs sets)

/-- The code points that some set of a list holds. -/
def unionAll (sets : List Edges) : Edges :=
  unionRounds sets.length sets

/-- The code points of some ranges from `low` on. A range that does not start behind the ranges
before it loses what lies in front of their ends. -/
def ofRanges (low : Nat) : List CharRange → Edges
  | [] => []
  | r :: rs =>
    let lo := max low r.lo
    if r.hi < lo then ofRanges lo rs
    else
      match ofRanges (r.hi + 1) rs with
      | e :: es => if e = r.hi + 1 then lo :: es else lo :: (r.hi + 1) :: e :: es
      | [] => [lo, r.hi + 1]

/-- The code points that equal one of the set up to case. -/
def caseVariants (es : Edges) : Edges :=
  unionAll ((Unicode.caseGroups.filter (·.any es.contains)).flatMap (·.map single))

/-- The ASCII letters whose other case belongs to the set. -/
def asciiVariants (es : Edges) : Edges :=
  let letters := (List.range 26).map (0x41 + ·) ++ (List.range 26).map (0x61 + ·)
  unionAll ((letters.filter fun c => es.contains (Unicode.asciiSwapCase c)).map single)

/-- The ranges between the edges, the last of which closes one. -/
def ranges : Edges → List CharRange
  | lo :: next :: es => ⟨lo, next - 1⟩ :: ranges es
  | _ => []

end Edges

namespace CharSet

/-- The edges of the set as it is written. -/
def writtenEdges : CharSet → Edges
  | ranges rs => .ofRanges 0 rs
  | union a b => a.writtenEdges.union b.writtenEdges
  | inter a b => .combine (· && ·) a.writtenEdges b.writtenEdges
  | diff a b => .combine (fun x y => x && !y) a.writtenEdges b.writtenEdges
  | symmDiff a b => .combine (· != ·) a.writtenEdges b.writtenEdges
  | compl a => a.writtenEdges.compl
  | foldCase a => a.writtenEdges.union a.writtenEdges.caseVariants
  | foldAsciiCase a => a.writtenEdges.union a.writtenEdges.asciiVariants

/-- The edges of all characters: the code points but the surrogates. -/
def characterEdges : Edges := [0, 0xD800, 0xE000, 0x110000]

/-- The edges of the set among the characters. -/
def edges (s : CharSet) : Edges :=
  .combine (· && ·) characterEdges s.writtenEdges

end CharSet

end Enrich
