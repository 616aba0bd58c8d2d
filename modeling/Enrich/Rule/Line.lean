/-!
# Rule lines

One rule is one line: a key, an operator and an operand. The key is the shortest front part, not
empty, behind which an operator token stands, so no token starts in a key but at its first
character. `Line.toString` writes the line that a rule was read from.
-/

namespace Enrich.Rule

/-- What a rule asks of the value under its key. -/
inductive Operator where
  | equals
  | notEquals
  | absent
  | present
  | regexMatch
  | regexNotMatch
  deriving DecidableEq, Repr

namespace Operator

/-- The two characters that write an operator. -/
def token : Operator → String
  | equals => "=="
  | notEquals => "!="
  | absent => "!!"
  | present => "~~"
  | regexMatch => "=~"
  | regexNotMatch => "!~"

/-- The operator that two characters write. -/
def ofChars? : Char → Char → Option Operator
  | '=', '=' => some equals
  | '!', '=' => some notEquals
  | '!', '!' => some absent
  | '~', '~' => some present
  | '=', '~' => some regexMatch
  | '!', '~' => some regexNotMatch
  | _, _ => none

/-- The operator that a token writes. -/
def ofToken? (token : String) : Option Operator :=
  match token.toList with
  | [a, b] => ofChars? a b
  | _ => none

/-- Whether something may stand behind the operator. -/
def takesOperand : Operator → Bool
  | absent | present => false
  | _ => true

theorem ofToken?_token (op : Operator) : ofToken? op.token = some op := by
  cases op <;> decide

end Operator

/-- One rule. -/
structure Line where
  key : String
  operator : Operator
  operand : String
  deriving DecidableEq, Repr

namespace Line

/-- The line that writes a rule. -/
def toString (line : Line) : String :=
  line.key ++ line.operator.token ++ line.operand

instance : ToString Line := ⟨toString⟩

/-- The operator at the front of a text, and the text behind it. -/
def operatorAt? : List Char → Option (Operator × List Char)
  | a :: b :: rest => (Operator.ofChars? a b).map fun op => (op, rest)
  | _ => none

/-- Splits a text at the first operator that has a character before it. -/
def splitAtOperator : List Char → Option (List Char × Operator × List Char)
  | [] => none
  | c :: rest =>
    match operatorAt? rest with
    | some (op, operand) => some ([c], op, operand)
    | none => (splitAtOperator rest).map fun (key, op, operand) => (c :: key, op, operand)

/-- The rule that a line writes. There is none if the line has no operator behind a key, or text
behind an operator that takes no operand, or more than one line. -/
def parse? (line : String) : Option Line :=
  if '\n' ∈ line.toList then none
  else
    match splitAtOperator line.toList with
    | none => none
    | some (key, op, operand) =>
      if op.takesOperand || operand.isEmpty then
        some ⟨String.ofList key, op, String.ofList operand⟩
      else none

end Line

end Enrich.Rule
