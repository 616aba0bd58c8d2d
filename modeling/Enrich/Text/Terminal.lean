/-!
# Text for a terminal

A terminal takes some characters of a text as commands: control characters, and the sequences that
start with an escape character. The functions here give what a reader sees of such a text.
-/

namespace Enrich.Text

/-- The sequence in which a text stands. -/
inductive Sequence where
  | none
  /-- Right behind an escape character. -/
  | escape
  /-- Behind an escape character and further ones that are not the last. -/
  | intermediate
  /-- In the parameters of a command. -/
  | parameters
  /-- In a text for the terminal itself that ends with a bell. -/
  | title
  /-- In another text for the terminal itself. -/
  | message
  deriving DecidableEq, Repr

namespace Sequence

/-- Whether `c` is a blank that is shown as one. -/
def isBlank (c : Char) : Bool :=
  c == '\t' || c == '\n' || c == '\x0C' || c == '\r'

/-- Whether `c` is shown outside of sequences. -/
def isShown (c : Char) : Bool :=
  isBlank c || (' ' ≤ c && c != '\x7F')

/-- Whether blanks are shown in the sequence. -/
def showsBlanks : Sequence → Bool
  | escape | intermediate | parameters => true
  | none | title | message => false

/-- The sequence that goes on behind an escape character with `c`. -/
def ofFirst (c : Char) : Sequence :=
  if c == '[' then parameters
  else if c == ']' then title
  else if c == 'P' || c == 'X' || c == '^' || c == '_' then message
  else if c ≤ '/' then intermediate
  else none

/-- Whether one of the bytes of `c` is the one that ends a message. -/
def hasTerminator (c : Char) : Bool :=
  (String.utf8EncodeChar c).contains 0x9C

/-- The sequence behind a character that is not shown. Most control characters change nothing, and
characters beyond ASCII do so only if they end a message. -/
def next (s : Sequence) (c : Char) : Sequence :=
  if c == '\x1B' then escape
  else if c == '\x18' || c == '\x1A' then none
  else
    match s with
    | title => if c == '\x07' then none else title
    | message => if hasTerminator c then none else message
    | none => none
    | escape => if ' ' ≤ c && c < '\x7F' then ofFirst c else escape
    | intermediate => if '0' ≤ c && c < '\x7F' then none else intermediate
    | parameters => if '@' ≤ c && c < '\x7F' then none else parameters

end Sequence

/-- What is seen of a text. A blank inside a sequence is shown, and while `showing` so is what
follows it, up to a character with which the sequence goes on. -/
def seenFrom (s : Sequence) (showing : Bool) : List Char → List Char
  | [] => []
  | c :: rest =>
    let open_ := showing || s == .none
    if (open_ && Sequence.isShown c) || (s.showsBlanks && Sequence.isBlank c) then
      c :: seenFrom (if '\x7F' < c then .none else s) true rest
    else seenFrom (s.next c) false rest

/-- What is seen of a text on a terminal. -/
def seen (text : String) : String :=
  String.ofList (seenFrom .none false text.toList)

end Enrich.Text
