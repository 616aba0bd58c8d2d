import Enrich.Text.Lines

/-!
# Logical lines

An entry may be broken over several lines: a line that ends in an odd number of backslashes goes on
in the next one, without its last backslash and without the blanks that start the next line. Blank
lines and comments stand only where no line is open.
-/

namespace Enrich.Properties

/-- Whether `c` is a space, a tab or a form feed. -/
def isSpace (c : Char) : Bool :=
  c == ' ' || c == '\t' || c == '\x0C'

/-- The line without the blanks at its start. -/
def trimStart (line : List Char) : List Char :=
  line.dropWhile isSpace

/-- The number of backslashes at the start of a text. -/
def leadingBackslashes (text : List Char) : Nat :=
  (text.takeWhile (· == '\\')).length

/-- Whether a text, given in reverse, ends in an odd number of backslashes, so that its line goes
on. -/
def isOpen (reversed : List Char) : Bool :=
  leadingBackslashes reversed % 2 == 1

/-- Whether a line, its blanks at the start dropped, is empty or a comment. -/
def isSkipped : List Char → Bool
  | [] => true
  | c :: _ => c == '#' || c == '!'

/-- A logical line, given in reverse, with the number of its first line, unless it is empty. -/
def entryLine (number : Nat) (reversed : List Char) : List (Nat × List Char) :=
  if reversed.isEmpty then [] else [(number, reversed.reverse)]

/-- The logical lines of some lines, of which the first has the given number; `pending` is the
logical line that is open, in reverse, with the number of its first line. -/
def assemble : (pending : Option (Nat × List Char)) → (number : Nat) → List (List Char) →
    List (Nat × List Char)
  | none, _, [] => []
  | some (first, reversed), _, [] => entryLine first reversed
  | none, number, line :: lines =>
    let text := trimStart line
    if isSkipped text then assemble none (number + 1) lines
    else
      let reversed := text.reverse
      if isOpen reversed then assemble (some (number, reversed.tail)) (number + 1) lines
      else entryLine number reversed ++ assemble none (number + 1) lines
  | some (first, before), number, line :: lines =>
    let reversed := (trimStart line).reverseAux before
    if isOpen reversed then assemble (some (first, reversed.tail)) (number + 1) lines
    else entryLine first reversed ++ assemble none (number + 1) lines

/-- The lines of a text as it is written; each kind of line end counts once. -/
def naturalLines (text : List Char) : List (List Char) :=
  (Text.unifyLineEnds text).splitOn '\n'

/-- The logical lines of a text, each with the number of its first line. -/
def logicalLines (text : List Char) : List (Nat × List Char) :=
  assemble none 1 (naturalLines text)

end Enrich.Properties
