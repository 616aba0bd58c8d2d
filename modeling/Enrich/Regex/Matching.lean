import Enrich.Regex.Basic
import Enrich.Regex.Positions

/-!
# Matching a regular expression

An expression is matched with all positions of a text at once: from the positions where it may start
it leads to those where it may end. Each class and each assertion is looked up once for every
position of the text; after that a round of a repetition costs a few operations on numbers. A
repetition without a bound remembers from where it was followed and follows it from nowhere twice,
so that nested ones cost no more than flat ones.
-/

namespace Enrich

/-- For each position of a text behind `before`, whether the assertion holds there. -/
def Assertion.along (a : Assertion) (before : Option Char) : List Char → List Bool
  | [] => [a.holds before none]
  | c :: rest => a.holds before (some c) :: along a (some c) rest

namespace Regex

/-- How an expression leads through one text. -/
inductive Moves where
  /-- Stays at the positions of a set. -/
  | stay (at_ : Positions)
  /-- Reads the character behind a position of a set. -/
  | step (at_ : Positions)
  | seq (a b : Moves)
  | alt (a b : Moves)
  /-- Any number of rounds but none. -/
  | plus (a : Moves)
  /-- At least `min` rounds and at most `more` further ones. -/
  | rounds (a : Moves) (min more : Nat)

/-- What has been followed so far: for each repetition without a bound the positions from which it
was, and the same for the parts of an expression. -/
inductive Trail where
  | none
  | node (seen : Positions) (left right : Trail)

namespace Trail

/-- The positions from which the repetition was followed. -/
def seen : Trail → Positions
  | none => 0
  | node seen _ _ => seen

/-- The trail of the first part. -/
def left : Trail → Trail
  | none => none
  | node _ left _ => left

/-- The trail of the second part. -/
def right : Trail → Trail
  | none => none
  | node _ _ right => right

end Trail

/-- Follows rounds from `latest` until they lead nowhere new, `fuel` times at most: the positions
where a round ended, `ends` among them, those from which a round was followed, and the trail of the
rounds. -/
def followRounds (round : Trail → Positions → Positions × Trail) :
    Nat → Positions → Positions → Trail → Positions → Positions × Positions × Trail
  | 0, ends, seen, trail, _ => (ends, seen, trail)
  | fuel + 1, ends, seen, trail, latest =>
    let new := latest.without seen
    if new = 0 then (ends, seen, trail)
    else
      let (reached, trail) := round trail new
      followRounds round fuel (ends ||| reached) (seen ||| new) trail reached

/-- The positions where a path may end that starts at one of `starts`, less some that paths on the
trail have ended at, and the longer trail; `count` is the number of positions of the text. -/
def Moves.follow (count : Nat) : Moves → Trail → Positions → Positions × Trail
  | stay at_, trail, starts => (starts &&& at_, trail)
  | step at_, trail, starts => ((starts &&& at_) <<< 1, trail)
  | seq a b, trail, starts =>
    let (middle, left) := a.follow count trail.left starts
    let (ends, right) := b.follow count trail.right middle
    (ends, .node 0 left right)
  | alt a b, trail, starts =>
    let (ends, left) := a.follow count trail.left starts
    let (others, right) := b.follow count trail.right starts
    (ends ||| others, .node 0 left right)
  | plus a, trail, starts =>
    let (ends, seen, left) :=
      followRounds (a.follow count) (count + 1) 0 trail.seen trail.left starts
    (ends, .node seen left .none)
  | rounds a min more, trail, starts =>
    let round := fun starts => (a.follow count .none starts).1
    let starts := Positions.afterExactly round min starts
    (Positions.afterAtMost round more starts starts, trail)

/-- How an expression leads through a text. -/
def moves (text : List Char) : Regex → Moves
  | empty => .stay (.firsts (text.length + 1))
  | set s => .step (.ofBits (text.map s.contains))
  | look a => .stay (.ofBits (a.along none text))
  | seq a b => .seq (a.moves text) (b.moves text)
  | alt a b => .alt (a.moves text) (b.moves text)
  | group _ a => a.moves text
  | rep a 0 (some 1) => .alt (a.moves text) (.stay (.firsts (text.length + 1)))
  | rep a min (some more) => .rounds (a.moves text) min more
  | rep a 0 none => .alt (.plus (a.moves text)) (.stay (.firsts (text.length + 1)))
  | rep a (min + 1) none =>
    let round := a.moves text
    if min = 0 then .plus round else .seq (.rounds round min 0) (.plus round)

/-- Whether the expression matches the whole text. -/
def matchesWhole (r : Regex) (text : String) : Bool :=
  let text := text.toList
  ((r.moves text).follow (text.length + 1) .none 1).1.testBit text.length

end Regex

end Enrich
