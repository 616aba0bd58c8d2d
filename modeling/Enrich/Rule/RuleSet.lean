import Enrich.Node
import Enrich.Rule.Condition
import Enrich.Text.Lines

/-!
# Rule sets

The rules of a text, grouped by key. A set matches if every line of its text is a rule and every
rule holds, so a line that is no rule makes the whole set match nothing.
-/

namespace Enrich

/-- The rules of a text by key, and the numbers of the lines that are no rules. -/
structure RuleSet where
  conditions : StringMap (List Rule.Condition)
  malformedLines : List Nat

namespace RuleSet

/-- The set without rules. -/
def empty : RuleSet := ⟨∅, []⟩

/-- The set with one more condition for a key. -/
def addCondition (s : RuleSet) (key : String) (condition : Rule.Condition) : RuleSet :=
  { s with conditions := s.conditions.update key fun found => condition :: found.getD [] }

/-- The set with one more line on record as no rule, the latest first. -/
def addMalformed (s : RuleSet) (number : Nat) : RuleSet :=
  { s with malformedLines := number :: s.malformedLines }

/-- The set with the rules of some lines, of which the first has the given number. The first line
whose pattern is in error decides the error. -/
def addLines (s : RuleSet) (number : Nat) : List String → Except PatternError RuleSet
  | [] => .ok s
  | line :: lines =>
    match Rule.Line.parse? line with
    | none => (s.addMalformed number).addLines (number + 1) lines
    | some rule =>
      match rule.condition with
      | .error e => .error e
      | .ok condition => (s.addCondition rule.key condition).addLines (number + 1) lines

/-- The set with the lines on record in the reverse order. -/
def reverseMalformed (s : RuleSet) : RuleSet :=
  { s with malformedLines := s.malformedLines.reverse }

/-- The rules of a text. -/
def parse (text : String) : Except PatternError RuleSet :=
  (empty.addLines 1 (Text.ruleLines text)).map reverseMalformed

/-- Whether every line is a rule. -/
def isWellFormed (s : RuleSet) : Bool :=
  s.malformedLines.isEmpty

/-- Whether there are no lines at all. -/
def isEmpty (s : RuleSet) : Bool :=
  s.conditions.isEmpty && s.malformedLines.isEmpty

/-- The keys that the rules ask about, in increasing order. -/
def keys (s : RuleSet) : List String :=
  s.conditions.keys

/-- Whether every line is a rule and every rule holds. -/
def «matches» (s : RuleSet) (attributes : Attributes) : Bool :=
  s.isWellFormed &&
    s.conditions.entries.all fun (key, conditions) =>
      conditions.all (·.test (attributes.find? key))

/-- Whether the rules of a text hold for some attributes. -/
def matchesText (attributes : Attributes) (text : String) : Except PatternError Bool :=
  (parse text).map (·.«matches» attributes)

end RuleSet

end Enrich
