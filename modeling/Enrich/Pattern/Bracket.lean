import Enrich.Pattern.Scan

/-!
# Reading brackets

The reader of bracket expressions `[...]`. Brackets nest, so the reader keeps the brackets that are
open on a stack; each holds the items read before it in the bracket around it, and the operation
that still waits for its right side.
-/

namespace Enrich.Pattern

/-- A bracket that is open: the items of the bracket around it, latest first, whether it is negated,
and the operator with the left side that waits for what is read now. -/
structure OpenBracket where
  outer : List Bracket
  negated : Bool
  pending : Option (BracketOperator × Bracket)

/-- The class that stands between `[:` and `:]`. -/
def asciiClass? (name : List Char) : Option AsciiClass :=
  [("alnum", AsciiClass.alnum), ("alpha", .alpha), ("ascii", .ascii), ("blank", .blank),
    ("cntrl", .cntrl), ("digit", .digit), ("graph", .graph), ("lower", .lower), ("print", .print),
    ("punct", .punct), ("space", .space), ("upper", .upper), ("word", .word),
    ("xdigit", .xdigit)].lookup (String.ofList name)

/-- An ASCII class from behind its opening bracket; whatever does not read as one is left to be read
as a nested bracket. -/
def scanAsciiClass? : List Char → Option (Scanned Bracket)
  | ':' :: rest =>
    let (negated, rest) :=
      match rest with
      | '^' :: rest => (true, rest)
      | rest => (false, rest)
    match rest.span (· != ':') with
    | (name, ':' :: ']' :: rest) => (asciiClass? name).map fun kind => (.ascii kind negated, rest)
    | _ => none
  | _ => none

/-- The start of a bracket, from behind `[`: whether it is negated, and the hyphens and the closing
bracket that stand for themselves there, latest first. -/
def scanBracketStart (verbose : Bool) (text : List Char) :
    Except PatternError (Scanned (Bool × List Bracket)) :=
  let text := skip verbose text
  let (negated, text) :=
    match text with
    | '^' :: rest => (true, skip verbose rest)
    | text => (false, text)
  match scanRun verbose (· == '-') text with
  | (_, []) => .error .bracketUnclosed
  | ([], ']' :: rest) =>
    match skip verbose rest with
    | [] => .error .bracketUnclosed
    | rest => .ok ((negated, [.literal ⟨']', false⟩]), rest)
  | (hyphens, rest) => .ok ((negated, hyphens.map fun c => .literal ⟨c, false⟩), rest)

/-- One character or class of a bracket. -/
def scanBracketAtom (verbose : Bool) : List Char → Except PatternError (Scanned Pattern)
  | [] => .error .bracketUnclosed
  | '\\' :: rest => scanEscape verbose rest
  | c :: rest => .ok (.literal ⟨c, false⟩, rest)

/-- The character that decides whether a hyphen starts a range. In verbose mode it is the first one
behind blanks and number signs, and the text's first if there is no such character. -/
def peekBehindHyphen (verbose : Bool) (text : List Char) : Option Char :=
  let rec search (seenSign : Bool) : List Char → Option Char
    | [] => text.head?
    | c :: rest =>
      if Text.isBlank c then search seenSign rest
      else if !seenSign && c == '#' then search true rest
      else some c
  if verbose then search false text else text.head?

/-- The bracket item that a character or class is. -/
def itemOfAtom : Pattern → Except PatternError Bracket
  | .literal l => .ok (.literal l)
  | .letter kind negated => .ok (.letter kind negated)
  | .unicode query negated => .ok (.unicode query negated)
  | _ => .error .bracketItem

/-- An item of a bracket: a character, a class or a range. -/
def scanBracketItem (verbose : Bool) (text : List Char) :
    Except PatternError (Scanned Bracket) := do
  let (first, rest) ← scanBracketAtom verbose text
  match skip verbose rest with
  | [] => .error .bracketUnclosed
  | '-' :: behind =>
    let next := peekBehindHyphen verbose behind
    if next == some ']' || next == some '-' then
      pure (← itemOfAtom first, '-' :: behind)
    else
      match first, ← scanBracketAtom verbose (skip verbose behind) with
      | .literal lo, (.literal hi, rest) =>
        if lo.char ≤ hi.char then pure (.range lo hi, rest) else .error .bracketRange
      | _, _ => .error .bracketRange
  | rest => pure (← itemOfAtom first, rest)

/-- The body that ends here: the items, latest first, with the operation that waits for them. -/
def closeOperand (pending : Option (BracketOperator × Bracket)) (items : List Bracket) : Bracket :=
  let operand := Bracket.ofItems items.reverse
  match pending with
  | some (op, lhs) => .operation op lhs operand
  | none => operand

/-- Reads on inside the innermost bracket `current` with the brackets around it on `stack`; `items`
are the items read last, latest first. -/
def scanBracketBody (verbose : Bool) : (fuel : Nat) → (current : OpenBracket) →
    (stack : List OpenBracket) → (items : List Bracket) → List Char →
    Except PatternError (Scanned Pattern)
  | 0, _, _, _, _ => .error .bracketUnclosed
  | fuel + 1, current, stack, items, text =>
    let operator (op : BracketOperator) (rest : List Char) :=
      scanBracketBody verbose fuel
        { current with pending := some (op, closeOperand current.pending items) } stack [] rest
    match skip verbose text with
    | [] => .error .bracketUnclosed
    | '[' :: rest =>
      match scanAsciiClass? rest with
      | some (item, rest) => scanBracketBody verbose fuel current stack (item :: items) rest
      | none => do
        let ((negated, start), rest) ← scanBracketStart verbose rest
        scanBracketBody verbose fuel ⟨items, negated, none⟩ (current :: stack) start rest
    | ']' :: rest =>
      let body := closeOperand current.pending items
      match stack with
      | [] => .ok (.bracket current.negated body, rest)
      | outer :: stack =>
        scanBracketBody verbose fuel outer stack (.nested current.negated body :: current.outer)
          rest
    | '&' :: '&' :: rest => operator .inter rest
    | '-' :: '-' :: rest => operator .diff rest
    | '~' :: '~' :: rest => operator .symmDiff rest
    | text => do
      let (item, rest) ← scanBracketItem verbose text
      scanBracketBody verbose fuel current stack (item :: items) rest

/-- A bracket expression, from behind its opening bracket. -/
def scanBracket (verbose : Bool) (text : List Char) : Except PatternError (Scanned Pattern) := do
  let ((negated, start), rest) ← scanBracketStart verbose text
  scanBracketBody verbose (rest.length + 1) ⟨[], negated, none⟩ [] start rest

end Enrich.Pattern
