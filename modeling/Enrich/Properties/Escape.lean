import Enrich.Text.Scalar

/-!
# Escapes in entries

Keys and values may hold escapes: a backslash and a letter for some control characters, `\u` and
four hexadecimal digits for a 16-bit unit, and a backslash before any other character for that
character. Units outside the basic plane come as a high and a low surrogate, one right behind the
other.
-/

namespace Enrich.Properties

/-- Why a key or value cannot be read. -/
inductive EscapeError where
  | malformedUnit
  | unpairedSurrogate
  deriving DecidableEq, Repr

/-- The wording of an error. -/
def EscapeError.message : EscapeError → String
  | malformedUnit => "malformed \\uxxxx encoding"
  | unpairedSurrogate => "unpaired UTF-16 surrogate in \\u escape"

/-- The character that an escaped letter stands for. -/
def escapedChar : Char → Char
  | 't' => '\t'
  | 'n' => '\n'
  | 'r' => '\r'
  | 'f' => '\x0C'
  | c => c

/-- What one character or one escape of a raw key or value stands for. -/
inductive Piece where
  | char (c : Char)
  | unit (n : Nat)
  | malformed
  deriving DecidableEq, Repr

/-- The pieces of a raw key or value, up to the first one that is malformed. A single backslash at
the end counts for nothing. -/
def pieces : List Char → List Piece
  | [] => []
  | c :: rest =>
    if c ≠ '\\' then .char c :: pieces rest
    else
      match rest with
      | [] => []
      | letter :: rest =>
        if letter ≠ 'u' then .char (escapedChar letter) :: pieces rest
        else
          match rest with
          | a :: b :: c :: d :: rest =>
            match Text.unit? a b c d with
            | some unit => .unit unit :: pieces rest
            | none => [.malformed]
          | _ => [.malformed]

/-- The character of a pair of units of which the first one is a high surrogate. -/
def pairChar? (high low : Nat) : Option Char :=
  if Text.isLowSurrogate low then Text.scalar? (Text.combineSurrogates high low) else none

/-- The text with one more character in front, if units make up that character. -/
def consChar (char : Option Char) (text : Except EscapeError (List Char)) :
    Except EscapeError (List Char) :=
  match char with
  | none => .error .unpairedSurrogate
  | some c => text.map (c :: ·)

/-- The text of some pieces; a high surrogate and a low one right behind it are one character. -/
def joinPieces : List Piece → Except EscapeError (List Char)
  | [] => .ok []
  | .malformed :: _ => .error .malformedUnit
  | .char c :: rest => (joinPieces rest).map (c :: ·)
  | .unit unit :: rest =>
    if Text.isHighSurrogate unit then
      match rest with
      | .unit low :: rest => consChar (pairChar? unit low) (joinPieces rest)
      | .malformed :: _ => .error .malformedUnit
      | _ => .error .unpairedSurrogate
    else consChar (Text.scalar? unit) (joinPieces rest)

/-- The text that a raw key or value stands for. -/
def unescape (raw : List Char) : Except EscapeError (List Char) :=
  joinPieces (pieces raw)

end Enrich.Properties
