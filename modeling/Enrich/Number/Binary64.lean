/-!
# Binary floating-point numbers

Finite numbers of the 64-bit binary format as sign, mantissa and exponent, so that rounding and
printing are exact arithmetic on natural numbers. The magnitude is `mantissa * 2 ^ exponent`; a
mantissa has 53 bits unless the exponent is the least one.
-/

namespace Enrich

/-- A finite binary number. -/
structure Binary64 where
  negative : Bool
  mantissa : Nat
  exponent : Int
  deriving DecidableEq, Repr

namespace Binary64

/-- The least exponent. -/
def minExponent : Int := -1074

/-- The greatest exponent. -/
def maxExponent : Int := 971

/-- The least mantissa of 53 bits. -/
def minNormal : Nat := 0x10000000000000

/-- Zero with a sign. -/
def zero (negative : Bool) : Binary64 := ⟨negative, 0, minExponent⟩

/-- `n * 2 ^ e` and `d` with no negative power of two: the parts of a fraction scaled by `e`. -/
def scaleFraction (n d : Nat) (e : Int) : Nat × Nat :=
  if 0 ≤ e then (n * Nat.pow 2 e.toNat, d) else (n, d * Nat.pow 2 (-e).toNat)

/-- The quotient rounded to the nearest natural number, a half to the even one. -/
def roundQuotient (n d : Nat) : Nat :=
  let q := n / d
  let r := n % d
  if d < 2 * r || (2 * r == d && q % 2 == 1) then q + 1 else q

/-- The number nearest to `n / d`, a tie to the even mantissa; `none` beyond the greatest. -/
def round (negative : Bool) (n d : Nat) : Option Binary64 :=
  if n = 0 then some (zero negative)
  else
    let guess : Int := (n.log2 : Int) - d.log2
    let (n', d') := scaleFraction n d (-guess)
    let exponent := max minExponent ((if d' ≤ n' then guess else guess - 1) - 52)
    let (n', d') := scaleFraction n d (-exponent)
    let mantissa := roundQuotient n' d'
    let (mantissa, exponent) :=
      if mantissa = 2 * minNormal then (minNormal, exponent + 1) else (mantissa, exponent)
    if mantissa = 0 then some (zero negative)
    else if maxExponent < exponent then none
    else some ⟨negative, mantissa, exponent⟩

/-- The number nearest to `digits * 10 ^ power`; `none` beyond the greatest. -/
def ofDecimal (negative : Bool) (digits : Nat) (power : Int) : Option Binary64 :=
  if digits = 0 then some (zero negative)
  else if 400 < power then none
  else if power < -400 - (digits.log2 : Int) then some (zero negative)
  else if 0 ≤ power then round negative (digits * Nat.pow 10 power.toNat) 1
  else round negative digits (Nat.pow 10 (-power).toNat)

/-- The parts of the magnitude as a fraction. -/
def fraction (x : Binary64) : Nat × Nat :=
  scaleFraction x.mantissa 1 x.exponent

/-- The product, rounded; `none` beyond the greatest number. -/
def mul (x y : Binary64) : Option Binary64 :=
  let (a, b) := x.fraction
  let (c, d) := y.fraction
  round (x.negative != y.negative) (a * c) (b * d)

/-- The quotient by a number other than zero, rounded; `none` beyond the greatest number. -/
def div (x y : Binary64) : Option Binary64 :=
  let (a, b) := x.fraction
  let (c, d) := y.fraction
  round (x.negative != y.negative) (a * d) (b * c)

end Binary64

end Enrich
