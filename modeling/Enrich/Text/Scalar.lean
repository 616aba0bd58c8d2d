/-!
# Characters by number

Characters from their code points, and the values of digits.
-/

namespace Enrich.Text

/-- The character with a code point, if there is one. -/
def scalar? (n : Nat) : Option Char :=
  if h : n.isValidChar then some (Char.ofNatAux n h) else none

/-- The value of a hexadecimal digit. -/
def hexDigit? (c : Char) : Option Nat :=
  if '0' ≤ c && c ≤ '9' then some (c.toNat - '0'.toNat)
  else if 'a' ≤ c && c ≤ 'f' then some (c.toNat - 'a'.toNat + 10)
  else if 'A' ≤ c && c ≤ 'F' then some (c.toNat - 'A'.toNat + 10)
  else none

/-- Whether `c` is a hexadecimal digit. -/
def isHexDigit (c : Char) : Bool :=
  (hexDigit? c).isSome

/-- The value of a hexadecimal digit; any other character counts as zero. -/
def hexValue (c : Char) : Nat :=
  (hexDigit? c).getD 0

/-- The number that digits of the given base write. -/
def digitsValue (base : Nat) (digits : List Char) : Nat :=
  digits.foldl (fun n c => n * base + hexValue c) 0

/-- The unit that four hexadecimal digits write. -/
def unit? (a b c d : Char) : Option Nat :=
  if isHexDigit a && isHexDigit b && isHexDigit c && isHexDigit d then
    some (digitsValue 16 [a, b, c, d])
  else none

/-- Whether a 16-bit unit is the first half of a pair. -/
def isHighSurrogate (u : Nat) : Bool := 0xD800 ≤ u && u ≤ 0xDBFF

/-- Whether a 16-bit unit is the second half of a pair. -/
def isLowSurrogate (u : Nat) : Bool := 0xDC00 ≤ u && u ≤ 0xDFFF

/-- The code point of a pair of surrogates. -/
def combineSurrogates (high low : Nat) : Nat :=
  0x10000 + (high - 0xD800) * 0x400 + (low - 0xDC00)

/-- A digit of a number written in hexadecimal. -/
def hexDigitChar (n : Nat) : Char :=
  if n < 10 then Char.ofNat ('0'.toNat + n) else Char.ofNat ('a'.toNat + (n - 10))

/-- A number in hexadecimal digits, at most `fuel` of them. -/
def hexDigits : (fuel : Nat) → Nat → List Char
  | 0, _ => []
  | fuel + 1, n =>
    if n < 16 then [hexDigitChar n] else hexDigits fuel (n / 16) ++ [hexDigitChar (n % 16)]

end Enrich.Text
