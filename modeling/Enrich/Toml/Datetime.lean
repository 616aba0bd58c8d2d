import Enrich.Text.Scalar

/-!
# Dates and times

Days of the calendar, times of the day and both together, as they stand in a TOML text and in
their normal text: a `T` between date and time, the seconds always there, and of a fraction only
the digits that count.
-/

namespace Enrich.Toml

/-- A day of the calendar. -/
structure Date where
  year : Nat
  month : Nat
  day : Nat
  deriving DecidableEq, Repr

/-- A time of the day. -/
structure Time where
  hour : Nat
  minute : Nat
  second : Nat
  nanosecond : Nat
  deriving DecidableEq, Repr

/-- How far a time is ahead of universal time. -/
inductive Offset where
  | zero
  | minutes (ahead : Int)
  deriving DecidableEq, Repr

/-- A date, a time or both. -/
inductive Datetime where
  | date (d : Date)
  | time (t : Time)
  | dateTime (d : Date) (t : Time) (offset : Option Offset)
  deriving DecidableEq, Repr

/-- The number in decimal digits, filled up with zeros to a width. -/
def padded (width n : Nat) : String :=
  let digits := (toString n).toList
  String.ofList (List.replicate (width - digits.length) '0' ++ digits)

/-- The text of a day. -/
def Date.text (d : Date) : String :=
  padded 4 d.year ++ "-" ++ padded 2 d.month ++ "-" ++ padded 2 d.day

/-- The text of a time. -/
def Time.text (t : Time) : String :=
  let fraction := (padded 9 t.nanosecond).toList.reverse.dropWhile (· == '0')
  padded 2 t.hour ++ ":" ++ padded 2 t.minute ++ ":" ++ padded 2 t.second ++
    if fraction.isEmpty then "" else "." ++ String.ofList fraction.reverse

/-- The text of an offset. -/
def Offset.text : Offset → String
  | zero => "Z"
  | minutes ahead =>
    (if ahead < 0 then "-" else "+") ++ padded 2 (ahead.natAbs / 60) ++ ":" ++
      padded 2 (ahead.natAbs % 60)

/-- The normal text of a date, a time or both. -/
def Datetime.text : Datetime → String
  | date d => d.text
  | time t => t.text
  | dateTime d t offset => d.text ++ "T" ++ t.text ++ (offset.map Offset.text).getD ""

/-- The number that some decimal digits write. -/
def decimal? (digits : List Char) : Option Nat :=
  if digits.all Char.isDigit then some (Text.digitsValue 10 digits) else none

/-- The number that some decimal digits write, if it lies within bounds. -/
def decimalIn? (low high : Nat) (digits : List Char) : Option Nat :=
  (decimal? digits).filter fun n => low ≤ n && n ≤ high

/-- The number of days of a month. -/
def daysOfMonth (year month : Nat) : Nat :=
  if month = 2 then (if year % 4 = 0 && (year % 100 ≠ 0 || year % 400 = 0) then 29 else 28)
  else if month = 4 || month = 6 || month = 9 || month = 11 then 30
  else 31

/-- The day at the front of a text. -/
def scanDate? : List Char → Option (Date × List Char)
  | y₁ :: y₂ :: y₃ :: y₄ :: '-' :: m₁ :: m₂ :: '-' :: d₁ :: d₂ :: rest => do
    let year ← decimal? [y₁, y₂, y₃, y₄]
    let month ← decimalIn? 1 12 [m₁, m₂]
    let day ← decimalIn? 1 (daysOfMonth year month) [d₁, d₂]
    pure (⟨year, month, day⟩, rest)
  | _ => none

/-- The nanoseconds that the digits of a fraction write; digits behind the ninth do not count. -/
def nanoseconds (digits : List Char) : Nat :=
  Text.digitsValue 10 ((digits ++ List.replicate 9 '0').take 9)

/-- The seconds and nanoseconds at the front of a text, zero if they are left out. -/
def scanSeconds? : List Char → Option (Nat × Nat × List Char)
  | ':' :: s₁ :: s₂ :: rest => do
    let second ← decimalIn? 0 60 [s₁, s₂]
    match rest with
    | '.' :: rest =>
      match rest.span Char.isDigit with
      | ([], _) => none
      | (digits, rest) => pure (second, nanoseconds digits, rest)
    | rest => pure (second, 0, rest)
  | rest => some (0, 0, rest)

/-- The time at the front of a text. -/
def scanTime? : List Char → Option (Time × List Char)
  | h₁ :: h₂ :: ':' :: m₁ :: m₂ :: rest => do
    let hour ← decimalIn? 0 23 [h₁, h₂]
    let minute ← decimalIn? 0 59 [m₁, m₂]
    let (second, nanosecond, rest) ← scanSeconds? rest
    pure (⟨hour, minute, second, nanosecond⟩, rest)
  | _ => none

/-- The offset that a text writes; an empty text writes none. -/
def offset? : List Char → Option (Option Offset)
  | [] => some none
  | ['Z'] | ['z'] => some (some .zero)
  | [sign, h₁, h₂, ':', m₁, m₂] => do
    let hours ← decimalIn? 0 23 [h₁, h₂]
    let minutes ← decimalIn? 0 59 [m₁, m₂]
    let ahead : Int := hours * 60 + minutes
    if sign = '+' then some (some (.minutes ahead))
    else if sign = '-' then some (some (.minutes (-ahead)))
    else none
  | _ => none

/-- The date, time or both that a whole text writes. -/
def Datetime.ofChars? (text : List Char) : Option Datetime :=
  match scanDate? text with
  | none =>
    match scanTime? text with
    | some (t, []) => some (.time t)
    | _ => none
  | some (d, []) => some (.date d)
  | some (d, separator :: rest) =>
    if separator == 'T' || separator == 't' || separator == ' ' then do
      let (t, rest) ← scanTime? rest
      pure (.dateTime d t (← offset? rest))
    else none

end Enrich.Toml
