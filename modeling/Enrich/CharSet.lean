import Enrich.Unicode.CaseFolding

/-!
# Character sets

Sets of characters as they are written: tables of ranges joined by set operations. Membership is
decided by recursion on the set, so each operation means what its name says.
-/

namespace Enrich

/-- A set of characters. -/
inductive CharSet where
  /-- The characters of some ranges, given in increasing order. -/
  | ranges (rs : List CharRange)
  | union (a b : CharSet)
  | inter (a b : CharSet)
  | diff (a b : CharSet)
  | symmDiff (a b : CharSet)
  | compl (a : CharSet)
  /-- The characters equal, up to case, to one of the set. -/
  | foldCase (a : CharSet)
  /-- The characters equal, up to the case of ASCII letters, to one of the set. -/
  | foldAsciiCase (a : CharSet)
  deriving DecidableEq, Repr

namespace CharSet

/-- Whether code point `c` lies in one of the ranges, which are in increasing order. -/
def inRanges (c : Nat) : List CharRange → Bool
  | [] => false
  | r :: rest => if c < r.lo then false else c ≤ r.hi || inRanges c rest

/-- Whether code point `c` belongs to the set. -/
def containsCode : CharSet → Nat → Bool
  | ranges rs, c => inRanges c rs
  | union a b, c => a.containsCode c || b.containsCode c
  | inter a b, c => a.containsCode c && b.containsCode c
  | diff a b, c => a.containsCode c && !b.containsCode c
  | symmDiff a b, c => a.containsCode c != b.containsCode c
  | compl a, c => !a.containsCode c
  | foldCase a, c => a.containsCode c || (Unicode.caseVariants c).any a.containsCode
  | foldAsciiCase a, c => a.containsCode c || a.containsCode (Unicode.asciiSwapCase c)

/-- Whether character `c` belongs to the set. -/
def contains (s : CharSet) (c : Char) : Bool :=
  s.containsCode c.toNat

/-- The set without characters. -/
def none : CharSet := ranges []

/-- The set of all characters. -/
def all : CharSet := ranges [⟨0, 0x10FFFF⟩]

/-- The code points from `lo` to `hi`. -/
def range (lo hi : Nat) : CharSet := ranges [⟨lo, hi⟩]

/-- The set of one character. -/
def singleton (c : Char) : CharSet := range c.toNat c.toNat

/-- The set whose ranges are written in `text`. -/
def ofHex (text : String) : CharSet := ranges (CodePoints.parseRanges text)

/-- The set whose ranges are written in some lines of text. -/
def ofHexLines (lines : List String) : CharSet := ranges (lines.flatMap CodePoints.parseRanges)

@[simp] theorem contains_singleton (c d : Char) : (singleton c).contains d = (d == c) := by
  have toNat_eq : d.toNat = c.toNat ↔ d = c :=
    ⟨fun h => Char.ext (UInt32.toNat_inj.mp h), fun h => by rw [h]⟩
  by_cases h : d = c
  · simp [contains, singleton, range, containsCode, inRanges, h]
  · have hne : d.toNat ≠ c.toNat := fun e => h (toNat_eq.mp e)
    rw [beq_eq_false_iff_ne.mpr h]
    simp [contains, singleton, range, containsCode, inRanges]
    omega

end CharSet

/-- A character set and the names under which it can be looked up. -/
structure NamedSet where
  names : List String
  chars : CharSet

/-- The set that a table has under `name`. -/
def NamedSet.lookup? (table : List NamedSet) (name : String) : Option CharSet :=
  (table.find? (·.names.contains name)).map (·.chars)

end Enrich
