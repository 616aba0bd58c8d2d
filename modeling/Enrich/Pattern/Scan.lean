import Enrich.Pattern.Basic
import Enrich.Text.Blank
import Enrich.Text.Cut
import Enrich.Unicode.Added

/-!
# Scanning the parts of a pattern

Readers for the parts that hold no further pattern: blanks and comments, numbers, flags, group
names, escapes and repetition counts. A reader takes the text from where its part starts and gives
the part together with the text behind it. In verbose mode blanks and comments between the
characters of a part do not count.
-/

namespace Enrich.Pattern

/-- A part of a pattern with the text behind it. -/
abbrev Scanned (α : Type) := α × List Char

/-- The text behind blanks and comments; inside a comment all is skipped up to the line's end. -/
def dropTrivia (inComment : Bool) : List Char → List Char
  | [] => []
  | c :: rest =>
    if inComment then dropTrivia (c != '\n') rest
    else if Text.isBlank c then dropTrivia false rest
    else if c == '#' then dropTrivia true rest
    else c :: rest

/-- The text behind what does not count in the given mode. -/
def skip (verbose : Bool) (text : List Char) : List Char :=
  if verbose then dropTrivia false text else text

/-- The longest run of characters that `p` accepts, read in at most `fuel` steps. -/
def takeRun (verbose : Bool) (p : Char → Bool) :
    (fuel : Nat) → List Char → List Char × List Char
  | fuel + 1, c :: rest =>
    if p c then
      let (run, rest) := takeRun verbose p fuel (skip verbose rest)
      (c :: run, rest)
    else ([], c :: rest)
  | _, text => ([], text)

/-- The longest run of characters that `p` accepts. -/
def scanRun (verbose : Bool) (p : Char → Bool) (text : List Char) : List Char × List Char :=
  takeRun verbose p text.length text

/-- A decimal number below 2^32, blanks around it allowed. -/
def scanDecimal (verbose : Bool) (text : List Char) : Except PatternError (Scanned Nat) :=
  let (digits, rest) := scanRun verbose Char.isDigit (text.dropWhile Text.isBlank)
  let value := Text.digitsValue 10 digits
  if digits.isEmpty || 0xFFFFFFFF < value then .error .repetitionCount
  else .ok (value, rest.dropWhile Text.isBlank)

/-- The counts of a repetition, from behind its opening brace. -/
def scanCounts (verbose : Bool) (text : List Char) :
    Except PatternError (Scanned (Nat × Option Nat)) := do
  let (min, rest) ← scanDecimal verbose (skip verbose text)
  match rest with
  | ',' :: rest =>
    match skip verbose rest with
    | '}' :: rest => pure ((min, none), rest)
    | rest =>
      match ← scanDecimal verbose rest with
      | (max, '}' :: rest) =>
        if min ≤ max then pure ((min, some max), rest) else .error .repetitionCount
      | _ => .error .repetitionCount
  | '}' :: rest => pure ((min, some min), rest)
  | _ => .error .repetitionCount

/-- Whether a question mark follows, and the text behind it. -/
def scanLazy : List Char → Bool × List Char
  | '?' :: rest => (true, rest)
  | rest => (false, rest)

/-- The flags of a group up to the closing parenthesis or colon, which is given too. No flag stands
twice, and a minus is followed by a flag. -/
def scanFlags (seen : FlagSwitches) (off danglingMinus : Bool) :
    List Char → Except PatternError (Scanned (FlagSwitches × Char))
  | [] => .error .flags
  | c :: rest =>
    if c == ':' || c == ')' then
      if danglingMinus then .error .flags else .ok ((seen.reverse, c), rest)
    else if c == '-' then
      if off then .error .flags else scanFlags seen true true rest
    else
      match Flag.ofChar? c with
      | none => .error .flags
      | some flag =>
        if seen.any (·.1 == flag) then .error .flags
        else scanFlags ((flag, !off) :: seen) off false rest

/-- Whether `c` may stand in the name of a group. -/
def isNameChar (first : Bool) (c : Char) : Bool :=
  c == '_' || Unicode.Property.alphabetic.contains c || Unicode.Added.alphabetic.contains c ||
    (!first && (c == '.' || c == '[' || c == ']' || Unicode.Category.number.contains c ||
      Unicode.Added.number.contains c))

/-- The name of a group, up to and with its closing bracket. -/
def scanGroupName (first : Bool) : List Char → Except PatternError (Scanned (List Char))
  | [] => .error .groupName
  | c :: rest =>
    if c == '>' then
      if first then .error .groupName else .ok ([], rest)
    else if isNameChar first c then do
      let (name, rest) ← scanGroupName false rest
      pure (c :: name, rest)
    else .error .groupName

/-- The literal for hexadecimal digits. -/
def hexLiteral (digits : List Char) (isByte : Bool) (rest : List Char) :
    Except PatternError (Scanned Literal) :=
  match Text.scalar? (Text.digitsValue 16 digits) with
  | some c => .ok (⟨c, isByte⟩, rest)
  | none => .error .escape

/-- Exactly `count` hexadecimal digits. -/
def scanHexDigits (verbose : Bool) :
    (count : Nat) → List Char → Except PatternError (Scanned (List Char))
  | 0, rest => .ok ([], rest)
  | count + 1, c :: rest =>
    if Text.isHexDigit c then do
      let (digits, rest) ← scanHexDigits verbose count (skip verbose rest)
      pure (c :: digits, rest)
    else .error .escape
  | _ + 1, [] => .error .escape

/-- A character by its number, from behind the letter of the escape: any number of digits in braces
or exactly `count` digits. -/
def scanHex (verbose : Bool) (count : Nat) (text : List Char) :
    Except PatternError (Scanned Literal) :=
  match skip verbose text with
  | '{' :: rest =>
    match scanRun verbose Text.isHexDigit (skip verbose rest) with
    | (digit :: digits, '}' :: rest) => hexLiteral (digit :: digits) false rest
    | _ => .error .escape
  | text => do
    let (digits, rest) ← scanHexDigits verbose count text
    hexLiteral digits (count == 2) rest

/-- The class that a name in braces stands for, and whether the name itself negates it. -/
def queryOfName (name : List Char) : Unicode.Query × Bool :=
  let valued := fun (p : List Char × List Char) =>
    Unicode.Query.valued (String.ofList p.1) (String.ofList p.2)
  match Text.cut? ['!', '='] name with
  | some parts => (valued parts, true)
  | none =>
    match (Text.cut? [':'] name).or (Text.cut? ['='] name) with
    | some parts => (valued parts, false)
    | none => (.named (String.ofList name), false)

/-- A named class, from behind the letter of the escape. -/
def scanUnicodeClass (verbose negated : Bool) (text : List Char) :
    Except PatternError (Scanned Pattern) :=
  match skip verbose text with
  | '{' :: rest =>
    match scanRun verbose (· != '}') (skip verbose rest) with
    | (name, '}' :: rest) =>
      let (query, flipped) := queryOfName name
      .ok (.unicode query (negated != flipped), rest)
    | _ => .error .escape
  | '\\' :: _ => .error .escape
  | c :: rest => .ok (.unicode (.named (String.singleton c)) negated, rest)
  | [] => .error .escape

/-- The word edge that a name in braces stands for. -/
def wordEdge? (name : List Char) : Option WordEdge :=
  [("start", WordEdge.starts), ("end", .ends), ("start-half", .startsHalf),
    ("end-half", .endsHalf)].lookup (String.ofList name)

/-- The edge that a `\b` asks for, from behind it: braces with the name of an edge, or none. Braces
that do not start with a letter or hyphen belong to what follows. -/
def scanWordEdge (verbose : Bool) (text : List Char) : Except PatternError (Scanned WordEdge) :=
  let isEdgeChar (c : Char) : Bool := c.isAlpha || c == '-'
  match text with
  | '{' :: rest =>
    match skip verbose rest with
    | [] => .error .escape
    | c :: inner =>
      if isEdgeChar c then
        match scanRun verbose isEdgeChar (c :: inner) with
        | (name, '}' :: rest) =>
          match wordEdge? name with
          | some edge => .ok (edge, rest)
          | none => .error .escape
        | _ => .error .escape
      else .ok (.boundary, text)
  | _ => .ok (.boundary, text)

/-- Whether an escaped `c` stands for itself: ASCII, neither letter nor digit, and no angle
bracket. -/
def isEscapable (c : Char) : Bool :=
  c.toNat < 0x80 && !c.isAlphanum && c != '<' && c != '>'

/-- An escape, from behind its backslash. -/
def scanEscape (verbose : Bool) : List Char → Except PatternError (Scanned Pattern)
  | [] => .error .escape
  | c :: rest =>
    let plain (c : Char) : Except PatternError (Scanned Pattern) :=
      .ok (.literal ⟨c, false⟩, rest)
    let hex (count : Nat) : Except PatternError (Scanned Pattern) :=
      (scanHex verbose count rest).map fun (l, rest) => (.literal l, rest)
    match c with
    | 'x' => hex 2
    | 'u' => hex 4
    | 'U' => hex 8
    | 'p' => scanUnicodeClass verbose false rest
    | 'P' => scanUnicodeClass verbose true rest
    | 'd' => .ok (.letter .digit false, rest)
    | 'D' => .ok (.letter .digit true, rest)
    | 's' => .ok (.letter .space false, rest)
    | 'S' => .ok (.letter .space true, rest)
    | 'w' => .ok (.letter .word false, rest)
    | 'W' => .ok (.letter .word true, rest)
    | 'a' => plain '\x07'
    | 'f' => plain '\x0C'
    | 't' => plain '\t'
    | 'n' => plain '\n'
    | 'r' => plain '\r'
    | 'v' => plain '\x0B'
    | 'A' => .ok (.anchor .textStart, rest)
    | 'z' => .ok (.anchor .textEnd, rest)
    | 'b' => (scanWordEdge verbose rest).map fun (edge, rest) => (.anchor (.word edge), rest)
    | 'B' => .ok (.anchor (.word .notBoundary), rest)
    | '<' => .ok (.anchor (.word .starts), rest)
    | '>' => .ok (.anchor (.word .ends), rest)
    | c => if isEscapable c then plain c else .error .escape

/-- What the opening of a group asks for. -/
inductive GroupOpening where
  /-- Flags for the rest of the group that is open. -/
  | switch (switches : FlagSwitches)
  /-- A new group, with its name if it has one. -/
  | group (kind : GroupKind) (name : Option (List Char))

/-- The opening of a group, from behind its parenthesis. -/
def scanGroupOpening (verbose : Bool) (text : List Char) :
    Except PatternError (Scanned GroupOpening) :=
  let named (rest : List Char) : Except PatternError (Scanned GroupOpening) := do
    let (name, rest) ← scanGroupName true rest
    pure (.group .capture (some name), rest)
  match skip verbose text with
  | '?' :: '=' :: _ | '?' :: '!' :: _ | '?' :: '<' :: '=' :: _ | '?' :: '<' :: '!' :: _ =>
    .error .lookAround
  | '?' :: 'P' :: '<' :: rest => named rest
  | '?' :: '<' :: rest => named rest
  | '?' :: rest => do
    let ((switches, closing), rest) ← scanFlags [] false false rest
    if closing == ':' then pure (.group (.plain switches) none, rest)
    else if switches.isEmpty then .error .nothingToRepeat
    else pure (.switch switches, rest)
  | rest => .ok (.group .capture none, rest)

end Enrich.Pattern
