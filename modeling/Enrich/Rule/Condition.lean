import Enrich.Pattern.Meaning
import Enrich.Regex.Matching
import Enrich.Rule.Line

/-!
# Conditions

What a rule asks of the value under its key, ready to be tested. A value may be absent, which is
never the same as empty.
-/

namespace Enrich.Rule

/-- A rule without its key, its pattern read. -/
inductive Condition where
  | equals (expected : String)
  | notEquals (expected : String)
  | absent
  | present
  | fullMatch (r : Regex)
  | noFullMatch (r : Regex)

namespace Condition

/-- Whether a value, or its absence, satisfies the condition. -/
def test (condition : Condition) (value : Option String) : Bool :=
  match condition with
  | equals expected => value == some expected
  | notEquals expected => value != some expected
  | absent => value.isNone
  | present => value.isSome
  | fullMatch r => value.any r.matchesWhole
  | noFullMatch r => !value.any r.matchesWhole

end Condition

/-- The condition of a rule. Only the pattern of a rule can be in error. -/
def Line.condition (line : Line) : Except PatternError Condition :=
  match line.operator with
  | .equals => .ok (.equals line.operand)
  | .notEquals => .ok (.notEquals line.operand)
  | .absent => .ok .absent
  | .present => .ok .present
  | .regexMatch => (Pattern.compile line.operand).map .fullMatch
  | .regexNotMatch => (Pattern.compile line.operand).map .noFullMatch

end Enrich.Rule
