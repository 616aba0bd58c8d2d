import Enrich.Number.Binary64

/-!
# Shortest decimal text

The decimal number with the fewest digits that reads back as a given binary number, and the text in
which it is written. Of the decimals with as few digits the nearest is taken, and of two equally
near ones the one with an even last digit.
-/

namespace Enrich.Binary64

/-- A decimal magnitude: `digits * 10 ^ power`. -/
structure Decimal where
  digits : Nat
  power : Int
  deriving DecidableEq, Repr

/-- Four times the magnitudes between which all reals round to `x`, in units of
`2 ^ (x.exponent - 2)`, and whether the two ends do so too. -/
def interval (x : Binary64) : Nat × Nat × Bool :=
  let below := if x.mantissa = minNormal && minExponent < x.exponent then 1 else 2
  (4 * x.mantissa - below, 4 * x.mantissa + 2, x.mantissa % 2 == 0)

/-- The least `p` from `start` on such that the fraction is below `10 ^ p`. -/
def decimalOrder (n d : Nat) : (fuel : Nat) → (start : Int) → Int
  | 0, start => start
  | fuel + 1, start =>
    let below :=
      if 0 ≤ start then n < d * Nat.pow 10 start.toNat else n * Nat.pow 10 (-start).toNat < d
    if below then start else decimalOrder n d fuel (start + 1)

/-- A decimal on the grid of the multiples of `10 ^ power` that reads back as `x`, if there is one:
the nearer of the two neighbours of `x` on the grid, of two equally near ones the even one. -/
def onGrid? (x : Binary64) (power : Int) : Option Decimal :=
  let (low, high, closed) := x.interval
  -- magnitudes are compared as multiples of a common unit
  let (unit, scale) := scaleFraction 1 1 (x.exponent - 2)
  let (step, stepScale) :=
    if 0 ≤ power then (Nat.pow 10 power.toNat, 1) else (1, Nat.pow 10 (-power).toNat)
  let value := 4 * x.mantissa * unit * stepScale
  let low := low * unit * stepScale
  let high := high * unit * stepScale
  let grid := step * scale
  let down := value / grid
  let readsBack (k : Nat) : Bool :=
    if closed then low ≤ k * grid && k * grid ≤ high else low < k * grid && k * grid < high
  let downError := value - down * grid
  let upError := (down + 1) * grid - value
  match readsBack down && down != 0, readsBack (down + 1) with
  | true, true =>
    let takesDown := downError < upError || (downError == upError && down % 2 == 0)
    some ⟨if takesDown then down else down + 1, power⟩
  | true, false => some ⟨down, power⟩
  | false, true => some ⟨down + 1, power⟩
  | false, false => none

/-- The first decimal that reads back as `x` on grids from `power` on, each ten times as fine as
the one before. -/
def firstOnGrid (x : Binary64) : (fuel : Nat) → (power : Int) → Decimal
  | 0, power => ⟨0, power⟩
  | fuel + 1, power => (x.onGrid? power).getD (firstOnGrid x fuel (power - 1))

/-- The shortest decimal that reads back as `x`. -/
def shortest (x : Binary64) : Decimal :=
  if x.mantissa = 0 then ⟨0, 0⟩
  else
    let (n, d) := x.fraction
    firstOnGrid x 20 (decimalOrder n d 700 (-330))

/-- The decimal text of a magnitude: positional as long as its point lies within or near its
digits, else with an exponent. A whole number ends in `.0`. -/
def Decimal.text (x : Decimal) : String :=
  let digits := (toString x.digits).toList
  let count := digits.length
  -- the position of the point, counted from the first digit
  let point : Int := count + x.power
  if x.digits = 0 then "0.0"
  else if 0 ≤ x.power && point ≤ 16 then
    String.ofList (digits ++ List.replicate x.power.toNat '0') ++ ".0"
  else if 0 < point && point ≤ 16 then
    String.ofList (digits.take point.toNat ++ '.' :: digits.drop point.toNat)
  else if -5 < point && point ≤ 0 then
    "0." ++ String.ofList (List.replicate (-point).toNat '0' ++ digits)
  else
    let mantissa :=
      match digits with
      | [first] => [first]
      | first :: rest => first :: '.' :: rest
      | [] => []
    let exponent := point - 1
    String.ofList mantissa ++ "e" ++ (if exponent < 0 then "-" else "+") ++
      toString exponent.natAbs

/-- The decimal text of a number. -/
def text (x : Binary64) : String :=
  (if x.negative then "-" else "") ++ x.shortest.text

end Enrich.Binary64
