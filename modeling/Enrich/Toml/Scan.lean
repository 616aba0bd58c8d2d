import Enrich.Text.Scalar

/-!
# Scanning TOML

Blanks, comments, strings and keys of a TOML text. A reader takes the text from where its part
starts and gives the part with the text behind it.
-/

namespace Enrich.Toml

/-- Whether `c` is a blank within a line. -/
def isSpace (c : Char) : Bool :=
  c == ' ' || c == '\t'

/-- Whether `c` may stand in comments and strings as it is. -/
def isPlain (c : Char) : Bool :=
  c == '\t' || (0x20 ≤ c.toNat && c.toNat ≠ 0x7F)

/-- The text behind blanks. -/
def skipSpaces (text : List Char) : List Char :=
  text.dropWhile isSpace

/-- The text behind blanks, line ends and comments. -/
def skipBlank : (inComment : Bool) → List Char → List Char
  | _, [] => []
  | _, '\n' :: rest => skipBlank false rest
  | _, '\r' :: '\n' :: rest => skipBlank false rest
  | true, c :: rest => if isPlain c then skipBlank true rest else c :: rest
  | false, c :: rest =>
    if isSpace c then skipBlank false rest
    else if c == '#' then skipBlank true rest
    else c :: rest

/-- Whether a line has nothing more but a comment. -/
def atLineEnd : List Char → Bool
  | [] | '\n' :: _ | '\r' :: '\n' :: _ | '#' :: _ => true
  | _ => false

/-- The character that a letter behind a backslash stands for. -/
def escapedChar? : Char → Option Char
  | 'b' => some '\x08'
  | 't' => some '\t'
  | 'n' => some '\n'
  | 'f' => some '\x0C'
  | 'r' => some '\r'
  | 'e' => some '\x1B'
  | '"' => some '"'
  | '\\' => some '\\'
  | _ => none

/-- The character whose number stands in so many digits at the front of a text. -/
def numberedChar? (count : Nat) (text : List Char) : Option (Char × List Char) :=
  let digits := text.take count
  if digits.length = count && digits.all Text.isHexDigit then
    (Text.scalar? (Text.digitsValue 16 digits)).map (·, text.drop count)
  else none

/-- The character that is escaped, from behind the backslash. -/
def scanEscape? : List Char → Option (Char × List Char)
  | 'x' :: rest => numberedChar? 2 rest
  | 'u' :: rest => numberedChar? 4 rest
  | 'U' :: rest => numberedChar? 8 rest
  | c :: rest => (escapedChar? c).map (·, rest)
  | [] => none

/-- The text behind blanks and line ends. -/
def skipLines : List Char → List Char
  | '\r' :: '\n' :: rest => skipLines rest
  | c :: rest => if isSpace c || c == '\n' then skipLines rest else c :: rest
  | [] => []

/-- The text behind blanks and line ends, if the first line has nothing but blanks. -/
def skipLineBreak? (text : List Char) : Option (List Char) :=
  match skipSpaces text with
  | '\n' :: rest | '\r' :: '\n' :: rest => some (skipLines rest)
  | _ => none

/-- Splits a text, from behind an opening quote, at the closing one; a backslash keeps the character
behind it from closing anything if there are `escapes`. -/
def splitAtQuote? (quote : Char) (escapes : Bool) :
    (content : List Char) → List Char → Option (List Char × List Char)
  | _, [] => none
  | content, c :: rest =>
    if c == quote then some (content.reverse, rest)
    else if escapes && c == '\\' then
      match rest with
      | [] => none
      | d :: rest => splitAtQuote? quote escapes (d :: c :: content) rest
    else splitAtQuote? quote escapes (c :: content) rest

/-- Splits a text, from behind three opening quotes, at three closing ones. If more follow, up to
two of them belong to the content. -/
def splitAtQuotes? (quote : Char) (escapes : Bool) :
    (content : List Char) → List Char → Option (List Char × List Char)
  | _, [] => none
  | content, c :: rest =>
    let count := ((c :: rest).takeWhile (· == quote)).length
    if 3 ≤ count then
      let inside := min (count - 3) 2
      some (content.reverse ++ List.replicate inside quote, (c :: rest).drop (inside + 3))
    else if escapes && c == '\\' then
      match rest with
      | [] => none
      | d :: rest => splitAtQuotes? quote escapes (d :: c :: content) rest
    else splitAtQuotes? quote escapes (c :: content) rest

/-- The content of a string in double quotes with its escapes replaced. `lines` tells whether it may
stand on several lines; then a backslash at the end of one hides the line end and the blanks behind
it. -/
def unescape? (lines : Bool) : (fuel : Nat) → (done : List Char) → List Char → Option String
  | _, done, [] => some (String.ofList done.reverse)
  | 0, _, _ => none
  | fuel + 1, done, c :: rest =>
    if c == '\\' then
      match if lines then skipLineBreak? rest else none with
      | some rest => unescape? lines fuel done rest
      | none =>
        match scanEscape? rest with
        | none => none
        | some (c, rest) => unescape? lines fuel (c :: done) rest
    else if isPlain c || lines && c == '\n' then unescape? lines fuel (c :: done) rest
    else if lines && c == '\r' && rest.head? == some '\n' then
      unescape? lines fuel (c :: done) rest
    else none

/-- The content of a string in single quotes, which has no escapes. -/
def verbatim? (lines : Bool) : (done : List Char) → List Char → Option String
  | done, [] => some (String.ofList done.reverse)
  | done, c :: rest =>
    if isPlain c || lines && (c == '\n' || c == '\r' && rest.head? == some '\n') then
      verbatim? lines (c :: done) rest
    else none

/-- The string in quotes of one kind at the front of a text, from behind the opening one. -/
def scanQuoted? (quote : Char) (text : List Char) : Option (String × List Char) := do
  let escapes := quote == '"'
  let (content, rest) ← splitAtQuote? quote escapes [] text
  let s ← if escapes then unescape? false content.length [] content else verbatim? false [] content
  pure (s, rest)

/-- The text without a line end at its front. -/
def dropLineEnd : List Char → List Char
  | '\n' :: rest | '\r' :: '\n' :: rest => rest
  | text => text

/-- The string over several lines in quotes of one kind at the front of a text, from behind the
three opening ones. A line end right there does not count. -/
def scanLines? (quote : Char) (text : List Char) : Option (String × List Char) := do
  let escapes := quote == '"'
  let (content, rest) ← splitAtQuotes? quote escapes [] (dropLineEnd text)
  let s ← if escapes then unescape? true content.length [] content else verbatim? true [] content
  pure (s, rest)

/-- The string at the front of a text, if one starts there. -/
def scanString? : List Char → Option (String × List Char)
  | '"' :: '"' :: '"' :: rest => scanLines? '"' rest
  | '\'' :: '\'' :: '\'' :: rest => scanLines? '\'' rest
  | '"' :: rest => scanQuoted? '"' rest
  | '\'' :: rest => scanQuoted? '\'' rest
  | _ => none

/-- Whether `c` may stand in a key without quotes. -/
def isKeyChar (c : Char) : Bool :=
  c.isAlphanum || c == '_' || c == '-'

/-- The key at the front of a text. -/
def scanKey? : List Char → Option (String × List Char)
  | '"' :: rest => scanQuoted? '"' rest
  | '\'' :: rest => scanQuoted? '\'' rest
  | text =>
    match text.span isKeyChar with
    | ([], _) => none
    | (key, rest) => some (String.ofList key, rest)

end Enrich.Toml
