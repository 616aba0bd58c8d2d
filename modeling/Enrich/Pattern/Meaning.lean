import Enrich.Pattern.Parser
import Enrich.Regex.Size

/-!
# The meaning of a pattern

The regular expression that a pattern stands for. Flags are followed in reading order: a switch
holds to the end of its group, across the branches behind it. Where Unicode is off only ASCII may be
named, since a set of bytes beyond ASCII would not be a set of characters.
-/

namespace Enrich

/-- The ASCII characters of a class. -/
def AsciiClass.chars : AsciiClass → CharSet
  | .alnum => .ofHex "30-39 41-5A 61-7A"
  | .alpha => .ofHex "41-5A 61-7A"
  | .ascii => .ofHex "0-7F"
  | .blank => .ofHex "9 20"
  | .cntrl => .ofHex "0-1F 7F"
  | .digit => .ofHex "30-39"
  | .graph => .ofHex "21-7E"
  | .lower => .ofHex "61-7A"
  | .print => .ofHex "20-7E"
  | .punct => .ofHex "21-2F 3A-40 5B-60 7B-7E"
  | .space => .ofHex "9-D 20"
  | .upper => .ofHex "41-5A"
  | .word => asciiWord
  | .xdigit => .ofHex "30-39 41-46 61-66"

/-- The characters of a lettered class, among all or among ASCII. -/
def LetterClass.chars (unicode : Bool) : LetterClass → CharSet
  | .digit => if unicode then Unicode.Category.decimalNumber else AsciiClass.digit.chars
  | .space => if unicode then Unicode.Property.whiteSpace else AsciiClass.space.chars
  | .word => if unicode then Unicode.Property.word else asciiWord

namespace Pattern

/-- How patterns are read at some place. -/
structure Flags where
  ignoreCase : Bool := false
  multiLine : Bool := false
  dotAll : Bool := false
  unicode : Bool := true
  crlf : Bool := false
  deriving DecidableEq, Repr

namespace Flags

/-- The flags after one switch. Greed and verbosity do not bear on what a pattern matches. -/
def switchOne (f : Flags) : Flag × Bool → Flags
  | (.ignoreCase, on) => { f with ignoreCase := on }
  | (.multiLine, on) => { f with multiLine := on }
  | (.dotAll, on) => { f with dotAll := on }
  | (.unicode, on) => { f with unicode := on }
  | (.crlf, on) => { f with crlf := on }
  | (.swapGreed, _) | (.verbose, _) => f

/-- The flags after some switches. -/
def switch (f : Flags) (switches : FlagSwitches) : Flags :=
  switches.foldl switchOne f

/-- The set that `s` stands for under the case flag. -/
def fold (f : Flags) (s : CharSet) : CharSet :=
  if f.ignoreCase then (if f.unicode then .foldCase s else .foldAsciiCase s) else s

/-- The complement of a set if `negated`. Where Unicode is off it would hold bytes beyond ASCII. -/
def negate (f : Flags) (negated : Bool) (s : CharSet) : Except PatternError CharSet :=
  if !negated then .ok s
  else if f.unicode then .ok (.compl s)
  else .error .invalidBytes

/-- The character that a literal stands for inside a bracket. -/
def bracketChar (f : Flags) (l : Literal) : Except PatternError Char :=
  if f.unicode || l.char.toNat < 0x80 then .ok l.char
  else if l.isByte then .error .invalidBytes
  else .error .unicodeNeeded

end Flags

/-- The characters of a lettered class or of its complement. -/
def Flags.letterSet (f : Flags) (kind : LetterClass) (negated : Bool) :
    Except PatternError CharSet :=
  f.negate negated (kind.chars f.unicode)

/-- The characters of a class that is looked up by name. -/
def Flags.unicodeSet (f : Flags) (query : Unicode.Query) (negated : Bool) :
    Except PatternError CharSet :=
  if !f.unicode then .error .unicodeNeeded
  else
    match query.chars? with
    | some s => f.negate negated (f.fold s)
    | none => .error .unknownClass

mutual

/-- The characters that the content of a bracket stands for. -/
def bracketSet (f : Flags) : Bracket → Except PatternError CharSet
  | .literal l => do pure (.singleton (← f.bracketChar l))
  | .range lo hi => do
    let lo ← f.bracketChar lo
    let hi ← f.bracketChar hi
    pure (.range lo.toNat hi.toNat)
  | .ascii kind negated => f.negate negated (f.fold kind.chars)
  | .letter kind negated => f.letterSet kind negated
  | .unicode query negated => f.unicodeSet query negated
  | .nested negated body => do f.negate negated (f.fold (← bracketSet f body))
  | .union items => unionSet f items
  | .operation op lhs rhs => do
    let lhs := f.fold (← bracketSet f lhs)
    let rhs := f.fold (← bracketSet f rhs)
    pure (match op with
      | .inter => .inter lhs rhs
      | .diff => .diff lhs rhs
      | .symmDiff => .symmDiff lhs rhs)

/-- The characters that some items of a bracket stand for together. -/
def unionSet (f : Flags) : List Bracket → Except PatternError CharSet
  | [] => .ok .none
  | item :: items => do pure (.union (← bracketSet f item) (← unionSet f items))

end

/-- The expression for a character that stands for itself. -/
def Flags.literalRegex (f : Flags) (l : Literal) : Except PatternError Regex :=
  if !f.unicode && l.isByte && 0x80 ≤ l.char.toNat then .error .invalidBytes
  else .ok (.set (f.fold (.singleton l.char)))

/-- The expression for the dot. -/
def Flags.dotRegex (f : Flags) : Except PatternError Regex :=
  if !f.unicode then .error .invalidBytes
  else if f.dotAll then .ok (.set .all)
  else if f.crlf then .ok (.set (.compl (.ofHex "A D")))
  else .ok (.set (.compl (.ofHex "A")))

/-- The assertion that an anchor stands for. -/
def Flags.assertion (f : Flags) : Anchor → Assertion
  | .caret => if f.multiLine then (if f.crlf then .crlfLineStart else .lineStart) else .textStart
  | .dollar => if f.multiLine then (if f.crlf then .crlfLineEnd else .lineEnd) else .textEnd
  | .textStart => .textStart
  | .textEnd => .textEnd
  | .word edge => .word edge f.unicode

/-- At least `min` and at most `max` rounds of an expression. Rounds that read nothing are made at
most once, and no round at all is the empty expression. -/
def repeatRegex (r : Regex) (min : Nat) (max : Option Nat) : Regex :=
  let (min, max) :=
    if r.zeroWidth then (Nat.min min 1, some (Nat.min (max.getD 1) 1)) else (min, max)
  match min, max with
  | 0, some 0 => .empty
  | 1, some 1 => r
  | min, max => .rep r min (max.map (· - min))

mutual

/-- The expression for a pattern read under some flags, and the flags behind it. -/
def regexUnder (f : Flags) : Pattern → Except PatternError (Regex × Flags)
  | .empty => .ok (.empty, f)
  | .switch switches => .ok (.empty, f.switch switches)
  | .literal l => do pure (← f.literalRegex l, f)
  | .dot => do pure (← f.dotRegex, f)
  | .anchor a => .ok (.look (f.assertion a), f)
  | .letter kind negated => do pure (.set (← f.letterSet kind negated), f)
  | .unicode query negated => do pure (.set (← f.unicodeSet query negated), f)
  | .bracket negated body => do
    pure (.set (← f.negate negated (f.fold (← bracketSet f body))), f)
  | .repetition body min max _ => do
    let (r, f) ← regexUnder f body
    pure (repeatRegex r min max, f)
  | .group (.plain switches) body => do
    pure (.group false (← regexUnder (f.switch switches) body).1, f)
  | .group .capture body => do pure (.group true (← regexUnder f body).1, f)
  | .alternation branches => alternationUnder f branches
  | .concat items => concatUnder f items

/-- The expression for some items one after the other. -/
def concatUnder (f : Flags) : List Pattern → Except PatternError (Regex × Flags)
  | [] => .ok (.empty, f)
  | [item] => regexUnder f item
  | item :: items => do
    let (a, f) ← regexUnder f item
    let (b, f) ← concatUnder f items
    pure (.seq a b, f)

/-- The expression for some branches beside each other. -/
def alternationUnder (f : Flags) : List Pattern → Except PatternError (Regex × Flags)
  | [] => .ok (.set .none, f)
  | [branch] => regexUnder f branch
  | branch :: branches => do
    let (a, f) ← regexUnder f branch
    let (b, f) ← alternationUnder f branches
    pure (.alt a b, f)

end

/-- The expression that a pattern stands for. -/
def toRegex (p : Pattern) : Except PatternError Regex :=
  (regexUnder {} p).map (·.1)

/-- The expression that the text of a pattern stands for. The limits on the text and on the
expression keep hostile patterns out. -/
def compile (text : String) : Except PatternError Regex := do
  if maxPatternBytes < text.utf8ByteSize then .error .tooLong
  else
    let r ← (← parse text).toRegex
    if r.fits then pure r else .error .tooLarge

end Pattern

end Enrich
