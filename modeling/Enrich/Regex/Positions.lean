/-!
# Sets of positions

Sets of positions of a text as numbers whose binary digits tell which positions belong to the set,
so that one operation on numbers acts on all positions at once.
-/

namespace Enrich

/-- A set of positions: position `i` belongs to it if binary digit `i` is one. -/
abbrev Positions := Nat

namespace Positions

/-- The positions at which a list holds `true`. -/
def ofBits (bits : List Bool) : Positions :=
  bits.foldr (fun bit rest => rest <<< 1 ||| bit.toNat) 0

/-- The first `count` positions. -/
def firsts (count : Nat) : Positions :=
  (1 <<< count) - 1

/-- The positions of `s` that are not in `t`. -/
def without (s t : Positions) : Positions :=
  (s ||| t) ^^^ t

/-- The positions reached by `count` steps from some of `s`. Steps that change nothing are left
out. -/
def afterExactly (step : Positions → Positions) : Nat → Positions → Positions
  | 0, s => s
  | count + 1, s =>
    let t := step s
    if t = s then s else afterExactly step count t

/-- The positions of `reached` and those that at most `count` steps from some of `latest` reach.
Only positions that have not been reached before are followed further. -/
def afterAtMost (step : Positions → Positions) : Nat → Positions → Positions → Positions
  | 0, reached, _ => reached
  | count + 1, reached, latest =>
    let new := (step latest).without reached
    if new = 0 then reached else afterAtMost step count (reached ||| new) new

end Positions

end Enrich
