import Enrich.Json.Scan

/-!
# Skipping JSON

Passing over a value of which nothing is wanted. It has to be JSON, but its numbers may have any
size, its strings may name half a pair, and it may be nested to any depth, so the arrays and objects
that are open are kept on a stack.
-/

namespace Enrich.Json

/-- The text behind a string of which nothing is wanted, from behind its opening quote. -/
def skipString : List Char → Except Fault (List Char)
  | [] => .error .unfinished
  | c :: rest =>
    if c == '"' then .ok rest
    else if c == '\\' then
      match rest with
      | [] => .error .unfinished
      | e :: rest =>
        if e == 'u' then
          match rest with
          | d₁ :: d₂ :: d₃ :: d₄ :: rest =>
            if (Text.unit? d₁ d₂ d₃ d₄).isSome then skipString rest else .error .malformed
          | rest => .error (truncatedUnit rest)
        else if (escapedChar? e).isSome then skipString rest
        else .error .malformed
    else if c.toNat < 0x20 then .error .malformed
    else skipString rest

/-- The text behind digits, of which there has to be one. -/
def skipDigits (text : List Char) : Except Fault (List Char) :=
  match digitRun text with
  | ([], _) => .error .malformed
  | (_, rest) => .ok rest

/-- The text behind an exponent, if one follows. -/
def skipExponent : List Char → Except Fault (List Char)
  | c :: rest =>
    if c == 'e' || c == 'E' then
      match rest with
      | '+' :: rest | '-' :: rest => skipDigits rest
      | rest => skipDigits rest
    else .ok (c :: rest)
  | [] => .ok []

/-- The text behind a number, from behind its sign. -/
def skipNumber (text : List Char) : Except Fault (List Char) := do
  let (whole, rest) := digitRun text
  match whole with
  | [] | '0' :: _ :: _ => .error .malformed
  | _ =>
    match rest with
    | '.' :: rest => skipExponent (← skipDigits rest)
    | rest => skipExponent rest

/-- The text behind a value other than an array or object. -/
def skipScalar : List Char → Except Fault (List Char)
  | [] => .error .unfinished
  | 'n' :: rest => scanWord "ull".toList rest
  | 't' :: rest => scanWord "rue".toList rest
  | 'f' :: rest => scanWord "alse".toList rest
  | '"' :: rest => skipString rest
  | '-' :: rest => skipNumber rest
  | c :: rest => if c.isDigit then skipNumber (c :: rest) else .error .malformed

/-- What is expected next while a value is skipped. -/
inductive Expected where
  | value
  /-- The first item or member, or the end, of what was just opened. -/
  | firstOrEnd
  /-- A comma or the end of the innermost array or object. -/
  | commaOrEnd

/-- The text at the value of a member whose name has to follow. -/
def skipName (text : List Char) : Except Fault (List Char) :=
  match skip text with
  | [] => .error .unfinished
  | '"' :: rest => do scanColon (← skipString rest)
  | _ => .error .malformed

/-- The text behind all that is open; `closing` holds the ends of the open arrays and objects,
innermost first. -/
def skipOpen : (fuel : Nat) → Expected → (closing : List Char) → List Char →
    Except Fault (List Char)
  | 0, _, _, _ => .error .unfinished
  | fuel + 1, .value, closing, text =>
    match skip text with
    | [] => .error .unfinished
    | '[' :: rest => skipOpen fuel .firstOrEnd (']' :: closing) rest
    | '\x7b' :: rest => skipOpen fuel .firstOrEnd ('\x7d' :: closing) rest
    | text => do skipOpen fuel .commaOrEnd closing (← skipScalar text)
  | _ + 1, _, [], text => .ok text
  | fuel + 1, expected, closer :: closing, text =>
    match skip text with
    | [] => .error .unfinished
    | c :: rest =>
      let next (text : List Char) : Except Fault (List Char) := do
        let text ← if closer == '\x7d' then skipName text else .ok text
        skipOpen fuel .value (closer :: closing) text
      if c == closer then skipOpen fuel .commaOrEnd closing rest
      else
        match expected with
        | .commaOrEnd => if c == ',' then next rest else .error .malformed
        | _ => next (c :: rest)

/-- The text behind a value of which nothing is wanted. -/
def skipValue (text : List Char) : Except Fault (List Char) :=
  skipOpen (2 * text.length + 2) .value [] text

end Enrich.Json
