import Enrich.Properties.Escape
import Enrich.Properties.LogicalLine

/-!
# Entries

An entry is a key and a value on one logical line. The key ends at the first blank, equals sign or
colon that is not escaped; blanks and at most one such sign stand between key and value; blanks at
the end of the value do not count unless they are escaped.
-/

namespace Enrich.Properties

/-- Whether `c` separates key and value. -/
def isSeparator (c : Char) : Bool :=
  c == '=' || c == ':'

/-- The key of a line and the text behind it; `escaped` tells whether the next character is
escaped. -/
def splitKey (escaped : Bool) : List Char → List Char × List Char
  | [] => ([], [])
  | c :: rest =>
    if !escaped && (isSeparator c || isSpace c) then ([], c :: rest)
    else
      let (key, rest) := splitKey (c == '\\' && !escaped) rest
      (c :: key, rest)

/-- The text behind blanks and one separator, none if one was `seen`. -/
def dropSeparator (seen : Bool) : List Char → List Char
  | [] => []
  | c :: rest =>
    if isSpace c then dropSeparator seen rest
    else if !seen && isSeparator c then dropSeparator true rest
    else c :: rest

/-- A reversed text without the blanks at its start that are not escaped. -/
def trimReversed : List Char → List Char
  | [] => []
  | c :: rest =>
    if isSpace c && leadingBackslashes rest % 2 == 0 then trimReversed rest else c :: rest

/-- The text without the blanks at its end that are not escaped. -/
def trimEnd (text : List Char) : List Char :=
  (trimReversed text.reverse).reverse

/-- The raw key and the raw value of a logical line. -/
def splitEntry (line : List Char) : List Char × List Char :=
  let (key, rest) := splitKey false line
  (key, trimEnd (dropSeparator false rest))

/-- The key and the value of a logical line. An error in the key comes first. -/
def readEntry (line : List Char) : Except EscapeError (String × String) := do
  let (rawKey, rawValue) := splitEntry line
  let key ← unescape rawKey
  let value ← unescape rawValue
  pure (String.ofList key, String.ofList value)

/-- The line whose entry cannot be read, and why. -/
structure ParseError where
  line : Nat
  cause : EscapeError
  deriving DecidableEq, Repr

/-- The wording of an error. -/
def ParseError.message (e : ParseError) : String :=
  "Invalid properties at line " ++ toString e.line ++ ": " ++ e.cause.message

/-- The entries of some logical lines; the first one that cannot be read decides the error. -/
def readEntries : List (Nat × List Char) → Except ParseError (List (String × String))
  | [] => .ok []
  | (number, line) :: lines =>
    match readEntry line with
    | .error cause => .error ⟨number, cause⟩
    | .ok entry => (readEntries lines).map (entry :: ·)

/-- The entries of a text, in its order. -/
def parse (text : String) : Except ParseError (List (String × String)) :=
  readEntries (logicalLines text.toList)

end Enrich.Properties
