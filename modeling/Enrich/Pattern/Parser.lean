import Enrich.Pattern.Bracket

/-!
# Reading patterns

The reader of whole patterns. Groups nest, so the reader keeps the groups that are open on a stack.
Every step reads at least one character, so the length of the text bounds the number of steps.
-/

namespace Enrich.Pattern

/-- A group that is open: what was read before it at the level around it, latest first, and the
mode to which its end returns. -/
structure OpenGroup where
  branches : List Pattern
  items : List Pattern
  kind : GroupKind
  verbose : Bool

/-- What has been read: the groups that are open, the finished branches and the items of the branch
under way at the innermost level, latest first, and the names of all groups so far. -/
structure Progress where
  groups : List OpenGroup := []
  branches : List Pattern := []
  items : List Pattern := []
  verbose : Bool := false
  names : List (List Char) := []

namespace Progress

/-- What has been read with one more item at its end. -/
def push (s : Progress) (p : Pattern) : Progress :=
  { s with items := p :: s.items }

/-- The pattern that the innermost level is if it ends here. -/
def body (s : Progress) : Pattern :=
  ofBranches (Pattern.ofItems s.items.reverse :: s.branches).reverse

/-- The last item repeated. Only an item that can match text may be repeated. -/
def repeatLast (s : Progress) (min : Nat) (max : Option Nat) (lazy : Bool) :
    Except PatternError Progress :=
  match s.items with
  | [] | .empty :: _ | .switch _ :: _ => .error .nothingToRepeat
  | item :: items => .ok { s with items := .repetition item min max lazy :: items }

/-- The state behind the opening of a group. -/
def openGroup (s : Progress) : GroupOpening → Except PatternError Progress
  | .switch switches =>
    .ok { s.push (.switch switches) with
      verbose := (switches.lookup .verbose).getD s.verbose }
  | .group kind name =>
    if name.any s.names.contains then .error .groupName
    else
      .ok {
        groups := ⟨s.branches, s.items, kind, s.verbose⟩ :: s.groups
        verbose :=
          match kind with
          | .plain switches => (switches.lookup .verbose).getD s.verbose
          | .capture => s.verbose
        names := name.toList ++ s.names }

/-- The state behind the end of a group. -/
def closeGroup (s : Progress) : Except PatternError Progress :=
  match s.groups with
  | [] => .error .groupUnopened
  | g :: groups =>
    .ok { s with
      groups
      branches := g.branches
      items := .group g.kind s.body :: g.items
      verbose := g.verbose }

/-- Reads the next item or operator, which starts with `c`. -/
def step (s : Progress) (c : Char) (rest : List Char) : Except PatternError (Scanned Progress) :=
  let repetition (min : Nat) (max : Option Nat) (rest : List Char) := do
    let (lazy, rest) := scanLazy rest
    pure (← s.repeatLast min max lazy, rest)
  match c with
  | '(' => do
    let (opening, rest) ← scanGroupOpening s.verbose rest
    pure (← s.openGroup opening, rest)
  | ')' => do pure (← s.closeGroup, rest)
  | '|' =>
    .ok ({ s with branches := Pattern.ofItems s.items.reverse :: s.branches, items := [] }, rest)
  | '[' => (scanBracket s.verbose rest).map fun (p, rest) => (s.push p, rest)
  | '?' => repetition 0 (some 1) rest
  | '*' => repetition 0 none rest
  | '+' => repetition 1 none rest
  | '{' => do
    let ((min, max), rest) ← scanCounts s.verbose rest
    repetition min max (skip s.verbose rest)
  | '\\' => (scanEscape s.verbose rest).map fun (p, rest) => (s.push p, rest)
  | '.' => .ok (s.push .dot, rest)
  | '^' => .ok (s.push (.anchor .caret), rest)
  | '$' => .ok (s.push (.anchor .dollar), rest)
  | c => .ok (s.push (.literal ⟨c, false⟩), rest)

/-- Reads to the end of the text in at most `fuel` steps. -/
def run (s : Progress) : (fuel : Nat) → List Char → Except PatternError Progress
  | 0, _ => .ok s
  | fuel + 1, text =>
    match skip s.verbose text with
    | [] => .ok s
    | c :: rest =>
      match s.step c rest with
      | .error e => .error e
      | .ok (s, rest) => s.run fuel rest

end Progress

/-- The pattern that a text writes. -/
def parse (text : String) : Except PatternError Pattern := do
  let chars := text.toList
  let s ← Progress.run {} chars.length chars
  if !s.groups.isEmpty then .error .groupUnclosed
  else if maxDepth < s.body.depth then .error .nestedTooDeep
  else pure s.body

end Enrich.Pattern
