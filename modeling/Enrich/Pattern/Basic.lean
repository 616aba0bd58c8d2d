import Enrich.Regex.Basic
import Enrich.Unicode.Query

/-!
# Patterns

A pattern as it is written: what stands in brackets, which operator repeats what, where flags are
switched. Its meaning, a regular expression, is given by another module.
-/

namespace Enrich

/-- Why a text is not a usable pattern. -/
inductive PatternError where
  | tooLong
  | groupUnclosed
  | groupUnopened
  | groupName
  | lookAround
  | flags
  | nothingToRepeat
  | repetitionCount
  | escape
  | bracketUnclosed
  | bracketRange
  | bracketItem
  | unknownClass
  | unicodeNeeded
  | invalidBytes
  | nestedTooDeep
  | tooLarge
  deriving DecidableEq, Repr

/-- The most bytes that the text of a pattern may have. -/
def maxPatternBytes : Nat := 500

/-- The wording of an error, for the errors that have a fixed one. -/
def PatternError.message? : PatternError → Option String
  | .tooLong =>
    some ("Invalid pattern: Pattern exceeds maximum length of " ++ toString maxPatternBytes ++
      " characters")
  | _ => none

/-- A switch that changes how the rest of a group is read. -/
inductive Flag where
  | ignoreCase
  | multiLine
  | dotAll
  | swapGreed
  | unicode
  | crlf
  | verbose
  deriving DecidableEq, Repr

namespace Flag

/-- The flag that a letter stands for. -/
def ofChar? : Char → Option Flag
  | 'i' => some ignoreCase
  | 'm' => some multiLine
  | 's' => some dotAll
  | 'U' => some swapGreed
  | 'u' => some unicode
  | 'R' => some crlf
  | 'x' => some verbose
  | _ => none

end Flag

/-- Flags switched on or off, each at most once. -/
abbrev FlagSwitches := List (Flag × Bool)

/-- A character that stands for itself. -/
structure Literal where
  char : Char
  /-- Whether it is written by two hexadecimal digits, which name a byte where Unicode is off. -/
  isByte : Bool := false
  deriving DecidableEq, Repr

/-- The classes with a letter of their own. -/
inductive LetterClass where
  | digit
  | space
  | word
  deriving DecidableEq, Repr

/-- The classes that may be named in brackets and colons. -/
inductive AsciiClass where
  | alnum | alpha | ascii | blank | cntrl | digit | graph | lower | print | punct | space | upper
  | word | xdigit
  deriving DecidableEq, Repr

/-- What joins two parts of a bracket. -/
inductive BracketOperator where
  | inter
  | diff
  | symmDiff
  deriving DecidableEq, Repr

/-- What stands in brackets. -/
inductive Bracket where
  | literal (l : Literal)
  | range (lo hi : Literal)
  | ascii (kind : AsciiClass) (negated : Bool)
  | letter (kind : LetterClass) (negated : Bool)
  | unicode (query : Unicode.Query) (negated : Bool)
  | nested (negated : Bool) (body : Bracket)
  | union (items : List Bracket)
  | operation (op : BracketOperator) (lhs rhs : Bracket)

/-- An assertion as it is written; its meaning depends on the flags. -/
inductive Anchor where
  | caret
  | dollar
  | textStart
  | textEnd
  | word (edge : WordEdge)
  deriving DecidableEq, Repr

/-- What the opening of a group says. -/
inductive GroupKind where
  | capture
  | plain (switches : FlagSwitches)
  deriving DecidableEq, Repr

/-- A pattern. -/
inductive Pattern where
  | empty
  | switch (switches : FlagSwitches)
  | literal (l : Literal)
  | dot
  | anchor (a : Anchor)
  | letter (kind : LetterClass) (negated : Bool)
  | unicode (query : Unicode.Query) (negated : Bool)
  | bracket (negated : Bool) (body : Bracket)
  /-- At least `min` and at most `max` rounds of the body, as few as possible if `lazy`. -/
  | repetition (body : Pattern) (min : Nat) (max : Option Nat) (lazy : Bool)
  | group (kind : GroupKind) (body : Pattern)
  | alternation (branches : List Pattern)
  | concat (items : List Pattern)

namespace Bracket

/-- The union of some items; one item alone stands for itself. -/
def ofItems : List Bracket → Bracket
  | [item] => item
  | items => union items

mutual

/-- How deep brackets, unions and operations are nested. -/
def depth : Bracket → Nat
  | nested _ body => body.depth + 1
  | union [] => 0
  | union (item :: items) => max item.depth (depthOfAll items) + 1
  | operation _ lhs rhs => max lhs.depth rhs.depth + 1
  | _ => 0

/-- The depth of the deepest of some items. -/
def depthOfAll : List Bracket → Nat
  | [] => 0
  | item :: items => max item.depth (depthOfAll items)

end

end Bracket

namespace Pattern

/-- Some items one after the other; one item alone stands for itself. -/
def ofItems : List Pattern → Pattern
  | [] => empty
  | [item] => item
  | items => concat items

/-- Some branches beside each other; one branch alone stands for itself. -/
def ofBranches : List Pattern → Pattern
  | [branch] => branch
  | branches => alternation branches

mutual

/-- How deep groups, repetitions, brackets, concatenations and alternations are nested. -/
def depth : Pattern → Nat
  | bracket _ body => body.depth + 1
  | repetition body _ _ _ => body.depth + 1
  | group _ body => body.depth + 1
  | alternation branches => depthOfAll branches + 1
  | concat items => depthOfAll items + 1
  | _ => 0

/-- The depth of the deepest of some patterns. -/
def depthOfAll : List Pattern → Nat
  | [] => 0
  | p :: ps => max p.depth (depthOfAll ps)

end

/-- The deepest nesting that a pattern may have. -/
def maxDepth : Nat := 250

end Pattern

end Enrich
