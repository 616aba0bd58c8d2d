/-!
# Lines of a text

The ways in which a text is cut into lines: for rules, for a report on rules, and for entries.
-/

namespace Enrich.Text

/-- The line without one carriage return at its end. -/
def dropReturn (line : List Char) : List Char :=
  if line.getLast? = some '\r' then line.dropLast else line

/-- The lines of a rule text: the pieces between newlines, each without one carriage return at its
end, without the empty lines at the end of the text. -/
def ruleLines (text : String) : List String :=
  let lines := (text.toList.splitOn '\n').map dropReturn
  (lines.reverse.dropWhile (·.isEmpty)).reverse.map String.ofList

/-- The pieces of a text in which the last one is kept as it is: each newline ends a line together
with a carriage return before it, and what follows the last newline is a line if it is not empty. -/
def endedLines : List (List Char) → List (List Char)
  | [] => []
  | [last] => if last.isEmpty then [] else [last]
  | line :: lines => dropReturn line :: endedLines lines

/-- The lines of a text in which every line has an end of its own. -/
def reportLines (text : String) : List String :=
  (endedLines (text.toList.splitOn '\n')).map String.ofList

/-- The text with a newline for each line end, be it a newline, a carriage return or both. -/
def unifyLineEnds : List Char → List Char
  | [] => []
  | '\r' :: '\n' :: rest => '\n' :: unifyLineEnds rest
  | c :: rest => (if c = '\r' then '\n' else c) :: unifyLineEnds rest

end Enrich.Text
