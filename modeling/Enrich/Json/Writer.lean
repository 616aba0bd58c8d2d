import Enrich.Json.Basic

/-!
# Writing JSON

JSON texts of values, with each item and each member on a line of its own.
-/

namespace Enrich.Json

/-- A character as it is written in a string. -/
def escapeChar (c : Char) : List Char :=
  match c with
  | '"' => ['\\', '"']
  | '\\' => ['\\', '\\']
  | '\x08' => ['\\', 'b']
  | '\t' => ['\\', 't']
  | '\n' => ['\\', 'n']
  | '\x0C' => ['\\', 'f']
  | '\r' => ['\\', 'r']
  | c =>
    if c.toNat < 0x20 then
      ['\\', 'u', '0', '0', Text.hexDigitChar (c.toNat / 16), Text.hexDigitChar (c.toNat % 16)]
    else [c]

/-- A string with its quotes. -/
def writeString (s : String) : List Char :=
  '"' :: s.toList.flatMap escapeChar ++ ['"']

/-- A value without parts. -/
def writeScalar : Json → List Char
  | null => "null".toList
  | bool b => if b then "true".toList else "false".toList
  | int i => (toString i).toList
  | float x => x.text.toList
  | str s => writeString s
  | arr _ => ['[', ']']
  | obj _ => ['\x7b', '\x7d']

/-- A new line, indented by two blanks a level. -/
def newLine (level : Nat) : List Char :=
  '\n' :: List.replicate (2 * level) ' '

mutual

/-- A value; `level` is how deep it stands. -/
def pretty (level : Nat) : Json → List Char
  | arr (item :: items) =>
    '[' :: newLine (level + 1) ++ pretty (level + 1) item ++ prettyItems level items
  | obj ((name, value) :: members) =>
    '\x7b' :: newLine (level + 1) ++ writeString name ++ ':' :: ' ' :: pretty (level + 1) value ++
      prettyMembers level members
  | scalar => writeScalar scalar

/-- The items behind the first one, and the end of their array. -/
def prettyItems (level : Nat) : List Json → List Char
  | [] => newLine level ++ [']']
  | item :: items =>
    ',' :: newLine (level + 1) ++ pretty (level + 1) item ++ prettyItems level items

/-- The members behind the first one, and the end of their object. -/
def prettyMembers (level : Nat) : List (String × Json) → List Char
  | [] => newLine level ++ ['\x7d']
  | (name, value) :: members =>
    ',' :: newLine (level + 1) ++ writeString name ++ ':' :: ' ' :: pretty (level + 1) value ++
      prettyMembers level members

end

/-- The text of a value. -/
def toPretty (j : Json) : String :=
  String.ofList (pretty 0 j)

end Enrich.Json
