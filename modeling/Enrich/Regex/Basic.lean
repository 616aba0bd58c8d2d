import Enrich.CharSet
import Enrich.Unicode.Property

/-!
# Regular expressions

The tree of a regular expression and what it matches. `Regex.Matches r before text after` says that
`r` matches `text` where it stands between the characters `before` and `after`; an assertion sees
no further than these two neighbours of a position. The relation is the meaning of a tree: how a
tree is matched is the business of another module.
-/

namespace Enrich

/-- Where a word starts or ends. -/
inductive WordEdge where
  | boundary
  | notBoundary
  | starts
  | ends
  | startsHalf
  | endsHalf
  deriving DecidableEq, Repr

/-- A condition on a position of the text. -/
inductive Assertion where
  | textStart
  | textEnd
  | lineStart
  | lineEnd
  | crlfLineStart
  | crlfLineEnd
  | word (edge : WordEdge) (unicode : Bool)
  deriving DecidableEq, Repr

/-- ASCII letters, digits and the underscore. -/
def asciiWord : CharSet :=
  .ofHex "30-39 41-5A 5F 61-7A"

/-- Whether there is a character and it belongs to a word. -/
def isWordChar (unicode : Bool) (c : Option Char) : Bool :=
  c.any (if unicode then Unicode.Property.word else asciiWord).contains

/-- Whether an edge lies between a character inside a word or not and one inside a word or not. -/
def WordEdge.holds (edge : WordEdge) (before after : Bool) : Bool :=
  match edge with
  | .boundary => before != after
  | .notBoundary => before == after
  | .starts => !before && after
  | .ends => before && !after
  | .startsHalf => !before
  | .endsHalf => !after

/-- Whether an assertion holds between two characters, `none` being the end of the text. -/
def Assertion.holds (a : Assertion) (before after : Option Char) : Bool :=
  match a with
  | .textStart => before.isNone
  | .textEnd => after.isNone
  | .lineStart => before.isNone || before == some '\n'
  | .lineEnd => after.isNone || after == some '\n'
  | .crlfLineStart =>
    before.isNone || before == some '\n' || (before == some '\r' && after != some '\n')
  | .crlfLineEnd =>
    after.isNone || after == some '\r' || (after == some '\n' && before != some '\r')
  | .word edge unicode => edge.holds (isWordChar unicode before) (isWordChar unicode after)

/-- A regular expression. -/
inductive Regex where
  | empty
  | set (s : CharSet)
  | look (a : Assertion)
  | seq (a b : Regex)
  | alt (a b : Regex)
  /-- The expression `a` in parentheses, which may capture what they match. -/
  | group (captures : Bool) (a : Regex)
  /-- At least `min` rounds of `a` and at most `more` further ones, any number if `more` is
  `none`. -/
  | rep (a : Regex) (min : Nat) (more : Option Nat)
  deriving DecidableEq, Repr

namespace Regex

/-- What an expression says of a piece of text between two neighbours. -/
abbrev Reading := Option Char → List Char → Option Char → Prop

/-- `m` reads a front part of the text and `n` the part behind it. -/
def Reading.Then (m n : Reading) : Reading := fun before text after =>
  ∃ s t, text = s ++ t ∧ m before s (t.head?.or after) ∧ n (s.getLast?.or before) t after

/-- `m` reads the text in exactly the given number of rounds. -/
def Reading.Rounds (m : Reading) : Nat → Reading
  | 0 => fun _ text _ => text = []
  | n + 1 => m.Then (Rounds m n)

/-- `r.Matches before text after`: the expression matches the whole of `text` between the
characters `before` and `after`. -/
def Matches : Regex → Reading
  | .empty => fun _ text _ => text = []
  | .set s => fun _ text _ => ∃ c, text = [c] ∧ s.contains c = true
  | .look a => fun before text after => text = [] ∧ a.holds before after = true
  | .seq a b => a.Matches.Then b.Matches
  | .alt a b => fun before text after => a.Matches before text after ∨ b.Matches before text after
  | .group _ a => a.Matches
  | .rep a min more => fun before text after =>
    ∃ n, min ≤ n ∧ (∀ m, more = some m → n ≤ min + m) ∧ a.Matches.Rounds n before text after

/-- Whether the expression matches no character wherever it matches. -/
def zeroWidth : Regex → Bool
  | .empty | .look _ => true
  | .set _ => false
  | .seq a b | .alt a b => a.zeroWidth && b.zeroWidth
  | .group _ a => a.zeroWidth
  | .rep a min more => a.zeroWidth || (min == 0 && more == some 0)

end Regex

end Enrich
