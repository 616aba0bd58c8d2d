import Enrich.Text.Scalar

/-!
# Code point ranges

Closed intervals of code points and the compact text in which the character tables are written:
hexadecimal intervals separated by blanks, `41-5A 5F 100-12E/2`, where `/2` takes every second
code point of the interval.
-/

namespace Enrich

/-- The code points from `lo` to `hi`, both included. -/
structure CharRange where
  lo : Nat
  hi : Nat
  deriving DecidableEq, Repr

namespace CharRange

/-- Every second code point from `lo`, `count` of them. -/
def alternate (lo count : Nat) : List CharRange :=
  (List.range count).map fun i => ⟨lo + 2 * i, lo + 2 * i⟩

end CharRange

namespace CodePoints

/-- What has been read of the interval under way: its start, once a dash was seen, its latest number
and whether it is stepped. -/
structure Interval where
  lo : Option Nat := none
  value : Nat := 0
  stepped : Bool := false

/-- The ranges that a finished interval stands for. -/
def Interval.ranges (p : Interval) : List CharRange :=
  let lo := p.lo.getD p.value
  if p.stepped then CharRange.alternate lo ((p.value - lo) / 2 + 1) else [⟨lo, p.value⟩]

/-- Reads intervals up to the end of the text. -/
def readRanges (p : Interval) : List Char → List CharRange
  | [] => p.ranges
  | ' ' :: rest => p.ranges ++ readRanges {} rest
  | '-' :: rest => readRanges { p with lo := some p.value, value := 0 } rest
  | '/' :: _ :: rest => readRanges { p with stepped := true } rest
  | c :: rest => readRanges { p with value := p.value * 16 + Text.hexValue c } rest

/-- The ranges that a table's text stands for, in the order of the text. -/
def parseRanges (text : String) : List CharRange :=
  readRanges {} text.toList

end CodePoints

end Enrich
