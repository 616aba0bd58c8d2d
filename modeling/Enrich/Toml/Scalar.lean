import Enrich.Toml.Basic

/-!
# Scalars

The values that are written without quotes or brackets: booleans, numbers, dates and times.
Underscores may stand between two digits of a number and do not count.
-/

namespace Enrich.Toml

/-- The digits of a number without its underscores; one has to stand between two digits. -/
def digits? (isDigit : Char → Bool) : List Char → Option (List Char)
  | [] => none
  | [c] => if isDigit c then some [c] else none
  | c :: '_' :: rest => if isDigit c then (digits? isDigit rest).map (c :: ·) else none
  | c :: rest => if isDigit c then (digits? isDigit rest).map (c :: ·) else none

/-- The digits of a whole number in decimal: no zero in front of others. -/
def wholeDigits? (text : List Char) : Option (List Char) :=
  (digits? Char.isDigit text).filter fun digits => digits.head? ≠ some '0' || digits.length = 1

/-- The sign at the front of a text: whether it is a minus, and the text behind it. -/
def splitSign : List Char → Bool × List Char
  | '+' :: rest => (false, rest)
  | '-' :: rest => (true, rest)
  | text => (false, text)

/-- The whole number that a text writes: with a sign in decimal, or without one in another base. -/
def integer? (text : List Char) : Option Int :=
  let based (base : Nat) (isDigit : Char → Bool) (text : List Char) : Option Int :=
    (digits? isDigit text).map fun digits => Text.digitsValue base digits
  match text with
  | '0' :: 'x' :: rest => based 16 Text.isHexDigit rest
  | '0' :: 'o' :: rest => based 8 (fun c => '0' ≤ c && c ≤ '7') rest
  | '0' :: 'b' :: rest => based 2 (fun c => c == '0' || c == '1') rest
  | text =>
    let (negative, text) := splitSign text
    (wholeDigits? text).map fun digits =>
      let n : Int := Text.digitsValue 10 digits
      if negative then -n else n

/-- The power of ten that an exponent writes, from behind its letter. -/
def exponent? (text : List Char) : Option Int :=
  let (negative, text) := splitSign text
  (digits? Char.isDigit text).map fun digits =>
    let n : Int := Text.digitsValue 10 digits
    if negative then -n else n

/-- Whether a letter starts an exponent. -/
def isExponentLetter (c : Char) : Bool :=
  c == 'e' || c == 'E'

/-- The number that a text writes with a point, an exponent or both. -/
def decimalNumber? (negative : Bool) (text : List Char) : Option Number := do
  let (mantissa, exponent) := text.span fun c => !isExponentLetter c
  let (whole, fraction) := mantissa.span (· ≠ '.')
  let power ←
    match exponent with
    | [] => some 0
    | _ :: exponent => exponent? exponent
  let decimals ←
    match fraction with
    | [] => if exponent.isEmpty then none else some []
    | _ :: fraction => digits? Char.isDigit fraction
  let digits := (← wholeDigits? whole) ++ decimals
  let x ← Binary64.ofDecimal negative (Text.digitsValue 10 digits) (power - decimals.length)
  pure (.finite x)

/-- The floating-point number that a text writes. -/
def number? (text : List Char) : Option Number :=
  match splitSign text with
  | (negative, ['i', 'n', 'f']) => some (.infinite negative)
  | (_, ['n', 'a', 'n']) => some .notANumber
  | (negative, text) => decimalNumber? negative text

/-- The value that a text writes without quotes or brackets. -/
def scalar? (text : List Char) : Option Value :=
  match text with
  | ['t', 'r', 'u', 'e'] => some (.boolean true)
  | ['f', 'a', 'l', 's', 'e'] => some (.boolean false)
  | text =>
    match Datetime.ofChars? text with
    | some d => some (.datetime d)
    | none =>
      match integer? text with
      | some i => some (.integer i)
      | none => (number? text).map .float

/-- Whether `c` may stand in a scalar. -/
def isScalarChar (c : Char) : Bool :=
  c.isAlphanum || c == '_' || c == '+' || c == '-' || c == '.' || c == ':'

/-- The scalar at the front of a text. A blank may stand between a date and a time. -/
def scanScalar (text : List Char) : Option (Value × List Char) :=
  let (word, rest) := text.span isScalarChar
  match rest with
  | ' ' :: c :: more =>
    if c.isDigit && (scanDate? word).any (·.2.isEmpty) then
      let (time, rest) := (c :: more).span isScalarChar
      (scalar? (word ++ ' ' :: time)).map (·, rest)
    else (scalar? word).map (·, rest)
  | rest => (scalar? word).map (·, rest)

end Enrich.Toml
