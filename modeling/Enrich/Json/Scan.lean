import Enrich.Json.Basic

/-!
# Scanning JSON

Readers for the tokens of a JSON text. A reader takes the text from where its part starts and gives
the part with the text behind it. Faults fall into three kinds: the text breaks off, it is no JSON,
or it is JSON of the wrong shape; a reader reports the first fault it meets.
-/

namespace Enrich.Json

/-- What is wrong with a JSON text. -/
inductive Fault where
  /-- The text breaks off. -/
  | unfinished
  /-- The text is not JSON. -/
  | malformed
  /-- The value has the wrong type, lacks a member or has one twice. -/
  | mismatch
  deriving DecidableEq, Repr

/-- A part of a text with the text behind it. -/
abbrev Scanned (α : Type) := α × List Char

/-- The text behind blanks. -/
def skip : List Char → List Char
  | c :: rest => if c == ' ' || c == '\n' || c == '\t' || c == '\r' then skip rest else c :: rest
  | [] => []

/-- The text behind a word that has to follow. -/
def scanWord : (word : List Char) → List Char → Except Fault (List Char)
  | [], text => .ok text
  | _ :: _, [] => .error .unfinished
  | c :: word, d :: text => if c == d then scanWord word text else .error .malformed

/-- The fault of a text that is too short for the four digits that have to follow. Fewer than four
bytes count as an end of the text, whatever they hold. -/
def truncatedUnit (text : List Char) : Fault :=
  if (String.ofList text).utf8ByteSize < 4 then .unfinished else .malformed

/-- The character that a letter behind a backslash stands for. -/
def escapedChar? : Char → Option Char
  | '"' => some '"'
  | '\\' => some '\\'
  | '/' => some '/'
  | 'b' => some '\x08'
  | 'f' => some '\x0C'
  | 'n' => some '\n'
  | 'r' => some '\r'
  | 't' => some '\t'
  | _ => none

/-- The unit that the four digits at the front of a text write. -/
def scanUnit : List Char → Except Fault (Scanned Nat)
  | d₁ :: d₂ :: d₃ :: d₄ :: rest =>
    match Text.unit? d₁ d₂ d₃ d₄ with
    | none => .error .malformed
    | some unit => .ok (unit, rest)
  | rest => .error (truncatedUnit rest)

/-- The character of a number that has been read, with the text behind it. -/
def numberedChar (n : Nat) (rest : List Char) : Except Fault (Scanned Char) :=
  match Text.scalar? n with
  | none => .error .malformed
  | some c => .ok (c, rest)

/-- The character that is written by its units, from behind the letter of the escape. A character
beyond 16 bits is written by two units, of which neither may stand alone. -/
def scanUnits (text : List Char) : Except Fault (Scanned Char) := do
  let (unit, rest) ← scanUnit text
  if Text.isHighSurrogate unit then
    match rest with
    | '\\' :: 'u' :: rest =>
      let (low, rest) ← scanUnit rest
      if Text.isLowSurrogate low then numberedChar (Text.combineSurrogates unit low) rest
      else .error .malformed
    | [] | ['\\'] => .error .unfinished
    | _ => .error .malformed
  else numberedChar unit rest

/-- The character that is escaped, from behind the backslash. -/
def scanEscape : List Char → Except Fault (Scanned Char)
  | [] => .error .unfinished
  | 'u' :: rest => scanUnits rest
  | e :: rest =>
    match escapedChar? e with
    | none => .error .malformed
    | some c => .ok (c, rest)

theorem length_scanUnit {text rest : List Char} {unit : Nat}
    (h : scanUnit text = .ok (unit, rest)) : text.length = rest.length + 4 := by
  unfold scanUnit at h
  split at h
  · split at h <;> cases h
    rfl
  · cases h

theorem eq_of_numberedChar {n : Nat} {rest behind : List Char} {c : Char}
    (h : numberedChar n rest = .ok (c, behind)) : behind = rest := by
  unfold numberedChar at h
  split at h <;> cases h
  rfl

theorem length_scanUnits {text rest : List Char} {c : Char}
    (h : scanUnits text = .ok (c, rest)) : rest.length < text.length := by
  unfold scanUnits at h
  simp only [bind, Except.bind] at h
  split at h
  · cases h
  next scanned hunit =>
    have hlength := length_scanUnit hunit
    split at h
    · split at h
      next behind hbehind =>
        split at h
        · cases h
        next low hlow =>
          split at h
          · have hlow := length_scanUnit hlow
            rw [hbehind, List.length_cons, List.length_cons] at hlength
            rw [eq_of_numberedChar h]
            omega
          · cases h
      all_goals cases h
    · rw [eq_of_numberedChar h]
      omega

/-- An escape is not empty, so the text behind it is shorter. -/
theorem length_scanEscape {text rest : List Char} {c : Char}
    (h : scanEscape text = .ok (c, rest)) : rest.length < text.length := by
  unfold scanEscape at h
  split at h
  · cases h
  · exact Nat.lt_succ_of_lt (length_scanUnits h)
  · split at h <;> cases h
    exact Nat.lt_succ_self _

/-- The string whose closing quote is in the text; `content` is what has been read of it, latest
character first. -/
def scanContent (content : List Char) : List Char → Except Fault (Scanned String)
  | [] => .error .unfinished
  | '"' :: rest => .ok (String.ofList content.reverse, rest)
  | '\\' :: rest =>
    match h : scanEscape rest with
    | .error fault => .error fault
    | .ok (c, behind) =>
      have := length_scanEscape h
      scanContent (c :: content) behind
  | c :: rest =>
    if c.toNat < 0x20 then .error .malformed else scanContent (c :: content) rest
termination_by text => text.length

/-- The content of a string, from behind its opening quote. -/
def scanString (text : List Char) : Except Fault (Scanned String) :=
  scanContent [] text

/-- A number: exact if it is whole and of 64 bits, else a binary number. -/
inductive Numeral where
  | int (i : Int)
  | float (x : Binary64)
  deriving DecidableEq, Repr

/-- The greatest whole number of 64 bits. -/
def maxUnsigned : Nat := 0xFFFFFFFFFFFFFFFF

/-- The digits at the front of a text. -/
def digitRun (text : List Char) : Scanned (List Char) :=
  text.span Char.isDigit

/-- The leading digits of a number as long as they fit 64 bits, and how many were left out. -/
def significand : (value : Nat) → List Char → Nat × Nat
  | value, [] => (value, 0)
  | value, d :: rest =>
    let next := value * 10 + (d.toNat - '0'.toNat)
    if maxUnsigned < next then (value, rest.length + 1) else significand next rest

/-- `significand * 10 ^ power` with the significand, the power of ten and their product each
rounded. -/
def roundedProduct (negative : Bool) (significand : Nat) (power : Int) :
    Except Fault Binary64 :=
  let tens (k : Nat) : Option Binary64 := Binary64.round false (Nat.pow 10 k) 1
  -- below all powers of ten the number is divided by the least of them first
  let rec divide (x : Binary64) : (fuel : Nat) → Int → Option Binary64
    | 0, _ => some (.zero negative)
    | fuel + 1, power =>
      if x.mantissa = 0 then some x
      else if -308 ≤ power then (tens (-power).toNat).bind x.div
      else ((tens 308).bind x.div).bind fun x => divide x fuel (power + 308)
  let product :=
    (Binary64.round negative significand 1).bind fun x =>
      if power < 0 then divide x 5 power
      else if power ≤ 308 then (tens power.toNat).bind x.mul
      else if x.mantissa = 0 then some x
      else none
  match product with
  | some x => .ok x
  | none => .error .malformed

/-- The exponent of a number, from behind its letter: its value and the text behind it. -/
def scanExponent (text : List Char) : Except Fault (Scanned Int) := do
  let (negative, text) :=
    match text with
    | '+' :: rest => (false, rest)
    | '-' :: rest => (true, rest)
    | text => (false, text)
  match digitRun text with
  | ([], []) => .error .unfinished
  | ([], _) => .error .malformed
  | (digits, rest) =>
    let value : Int := Text.digitsValue 10 digits
    pure (if negative then -value else value, rest)

/-- A number from behind its sign. -/
def scanNumber (negative : Bool) (text : List Char) : Except Fault (Scanned Numeral) := do
  let (whole, rest) := digitRun text
  match whole with
  | [] => if text.isEmpty then .error .unfinished else .error .malformed
  | '0' :: _ :: _ => .error .malformed
  | _ =>
    let (value, dropped) := significand 0 whole
    let finish (value : Nat) (power : Int) (rest : List Char) :
        Except Fault (Scanned Numeral) := do
      match rest with
      | e :: rest =>
        if e == 'e' || e == 'E' then
          let (exponent, rest) ← scanExponent rest
          -- an exponent beyond 32 bits cannot be balanced by the digits
          if 0x7FFFFFFF < exponent.natAbs then
            if value ≠ 0 && 0 < exponent then .error .malformed
            else pure (.float (.zero negative), rest)
          else pure (.float (← roundedProduct negative value (power + exponent)), rest)
        else pure (.float (← roundedProduct negative value power), e :: rest)
      | [] => pure (.float (← roundedProduct negative value power), [])
    match rest with
    | '.' :: rest =>
      match digitRun rest with
      | ([], []) => .error .unfinished
      | ([], _) => .error .malformed
      | (decimals, rest) =>
        -- digits beyond 64 bits are left out; whole ones still count for the power
        let (value, cut) := significand value decimals
        finish value ((dropped : Int) - (decimals.length - cut : Nat)) rest
    | rest =>
      let hasExponent := rest.head? == some 'e' || rest.head? == some 'E'
      if hasExponent || dropped ≠ 0 then finish value dropped rest
      else if !negative then pure (.int value, rest)
      else if value = 0 || 0x8000000000000000 < value then
        pure (.float (← roundedProduct true value 0), rest)
      else pure (.int (-value), rest)

/-- A value other than an array or object. -/
def scanScalar : List Char → Except Fault (Scanned Json)
  | [] => .error .unfinished
  | c :: rest =>
    let numeral (negative : Bool) (text : List Char) := do
      let (n, rest) ← scanNumber negative text
      match n with
      | .int i => pure (Json.int i, rest)
      | .float x => pure (Json.float x, rest)
    match c with
    | 'n' => (scanWord "ull".toList rest).map fun rest => (.null, rest)
    | 't' => (scanWord "rue".toList rest).map fun rest => (.bool true, rest)
    | 'f' => (scanWord "alse".toList rest).map fun rest => (.bool false, rest)
    | '"' => (scanString rest).map fun (s, rest) => (.str s, rest)
    | '-' => numeral true rest
    | c => if c.isDigit then numeral false (c :: rest) else .error .malformed

/-- Whether an array, from behind its opening bracket or the last of its items, has one more item:
the text at that item, or `none` at the closing bracket. -/
def nextItem? (first : Bool) (text : List Char) : Except Fault (Option (List Char)) :=
  match skip text with
  | [] => .error .unfinished
  | ']' :: _ => .ok none
  | c :: rest =>
    if first then .ok (some (c :: rest))
    else if c == ',' then
      match skip rest with
      | [] => .error .unfinished
      | ']' :: _ => .error .malformed
      | text => .ok (some text)
    else .error .malformed

/-- Whether an object, from behind its opening brace or the last of its members, has one more
member: its name, or `none` at the closing brace. -/
def nextMember? (first : Bool) (text : List Char) : Except Fault (Option (Scanned String)) :=
  match skip text with
  | [] => .error .unfinished
  | '\x7d' :: _ => .ok none
  | c :: rest =>
    if first then (if c == '"' then (scanString rest).map some else .error .malformed)
    else if c == ',' then
      match skip rest with
      | [] => .error .unfinished
      | '"' :: rest => (scanString rest).map some
      | _ => .error .malformed
    else .error .malformed

/-- The text behind the colon that has to follow the name of a member. -/
def scanColon (text : List Char) : Except Fault (List Char) :=
  match skip text with
  | [] => .error .unfinished
  | ':' :: rest => .ok rest
  | _ => .error .malformed

/-- The text behind the bracket that has to end an array or object here. -/
def scanEnd (closing : Char) (text : List Char) : Except Fault (List Char) :=
  match skip text with
  | [] => .error .unfinished
  | c :: rest => if c == closing then .ok rest else .error .malformed

end Enrich.Json
