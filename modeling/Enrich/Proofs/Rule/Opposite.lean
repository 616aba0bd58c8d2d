import Enrich.Proofs.Rule.Line
import Enrich.Proofs.Rule.RuleSet
import Mathlib.Data.List.Infix

/-!
# Rules that ask for the opposite

Each operator has an opposite one, which holds of just the values, present or absent, of which the
first does not hold. A key that can stand before `==`, `=~` or `~~` can also stand before the
opposite token, since a token that starts with `!` starts no earlier token that the other one would
not start (`KeyEnds.bang`). So the two lines are rules for one key, and of any attributes exactly
one of them holds (`matchesText_opposite`). The other way round a key may be cut short: `a=!=b` is a
rule for `a=`, but `a===b` is one for `a`.
-/

namespace Enrich.Rule

namespace Operator

/-- The operator that holds when another one does not. -/
def opposite : Operator → Operator
  | equals => notEquals
  | notEquals => equals
  | absent => present
  | present => absent
  | regexMatch => regexNotMatch
  | regexNotMatch => regexMatch

theorem takesOperand_opposite (op : Operator) : op.opposite.takesOperand = op.takesOperand := by
  cases op <;> rfl

theorem token_injective {op op' : Operator} (h : op.token = op'.token) : op = op' := by
  have hread := ofToken?_token op
  rw [h, ofToken?_token op'] at hread
  exact (Option.some.inj hread).symm

end Operator

/-- The condition that holds when another one does not. -/
def Condition.opposite : Condition → Condition
  | equals expected => notEquals expected
  | notEquals expected => equals expected
  | absent => present
  | present => absent
  | fullMatch r => noFullMatch r
  | noFullMatch r => fullMatch r

theorem Condition.test_opposite (c : Condition) (value : Option String) :
    c.opposite.test value = !c.test value := by
  cases c <;> cases value <;> simp [opposite, test, bne]

namespace Line

open Operator (StartsAt)

variable {r s : Line} {key : List Char} {op op' : Operator} {i : Nat}

/-! ## Where a key ends -/

/-- Whether no token starts behind the first character of a key and before its end when an operator
follows it. -/
def KeyEnds (key : List Char) (op : Operator) : Prop :=
  ∀ i, 0 < i → i < key.length → ¬ StartsAt (key ++ op.token.toList) i

theorem startsAt_iff_isSome {text : List Char} :
    StartsAt text i ↔ (operatorAt? (text.drop i)).isSome = true := by
  have hnone : operatorAt? (text.drop i) = none ↔ ¬ StartsAt text i := operatorAt?_eq_none_iff
  rw [Option.isSome_iff_ne_none, ne_eq, hnone, not_not]

/-- What follows the token behind a key starts no token inside the key. -/
theorem startsAt_append_iff (hi : i < key.length) (operand : List Char) :
    StartsAt (key ++ op.token.toList ++ operand) i ↔ StartsAt (key ++ op.token.toList) i := by
  have hlength : (key ++ op.token.toList).length = key.length + 2 := by
    rw [List.length_append, op.length_token]
  rw [Operator.startsAt_iff_of_prefix (List.prefix_append (key ++ op.token.toList) operand)]
  exact (and_iff_left (by omega)).symm

theorem writable_iff : r.Writable ↔ r.key ≠ "" ∧ '\n' ∉ r.key.toList ∧ '\n' ∉ r.operand.toList ∧
    KeyEnds r.key.toList r.operator ∧ (r.operator.takesOperand = false → r.operand = "") := by
  have htoken : '\n' ∉ r.operator.token.toList := by
    cases r.operator <;> decide
  have hnewline : '\n' ∉ r.toString.toList ↔ '\n' ∉ r.key.toList ∧ '\n' ∉ r.operand.toList := by
    rw [toList_toString]
    simp [htoken]
  have hends : (∀ i, 0 < i → i < r.key.length → ¬ StartsAt r.toString.toList i) ↔
      KeyEnds r.key.toList r.operator := by
    unfold KeyEnds
    rw [toList_toString, String.length_toList]
    refine forall_congr' fun i => forall_congr' fun _ => forall_congr' fun hi => ?_
    rw [startsAt_append_iff (by rwa [String.length_toList])]
  constructor
  · intro hr
    obtain ⟨hkey, hoperand⟩ := hnewline.mp hr.newline
    exact ⟨hr.key_ne, hkey, hoperand, hends.mp hr.key_ends, hr.operand⟩
  · rintro ⟨hne, hkey, hoperand, hkeyEnds, hempty⟩
    exact ⟨hne, hnewline.mpr ⟨hkey, hoperand⟩, hends.mpr hkeyEnds, hempty⟩

/-- A token that starts inside a key may reach into the one behind it, but not beyond its first
character. -/
theorem startsAt_append_token_iff (hi : i < key.length) : StartsAt (key ++ op.token.toList) i ↔
    ((key.drop (i + 1)).head?.or op.token.toList.head?).any
      (fun d => (Operator.ofChars? key[i] d).isSome) = true := by
  have hcons : ∀ c text, (operatorAt? (c :: text)).isSome =
      text.head?.any fun d => (Operator.ofChars? c d).isSome := by
    intro c text
    cases text with
    | nil => rfl
    | cons d text => exact Option.isSome_map
  rw [startsAt_iff_isSome, List.drop_append_of_le_length (Nat.le_of_lt hi),
    List.drop_eq_getElem_cons hi, List.cons_append, hcons, List.head?_append]

/-- Tokens that start alike end the same keys. -/
theorem KeyEnds.congr (h : KeyEnds key op)
    (hhead : op'.token.toList.head? = op.token.toList.head?) : KeyEnds key op' := by
  intro i hpos hi hstarts
  refine h i hpos hi ?_
  rw [startsAt_append_token_iff hi] at hstarts ⊢
  rwa [← hhead]

/-- A token that starts with `!` makes no key shorter than another token does. -/
theorem KeyEnds.bang (h : KeyEnds key op) (hbang : op'.token.toList.head? = some '!') :
    KeyEnds key op' := by
  intro i hpos hi hstarts
  refine h i hpos hi ?_
  rw [startsAt_append_token_iff hi] at hstarts ⊢
  cases hbehind : (key.drop (i + 1)).head? with
  | some d =>
    -- Both characters of the token are in the key.
    rwa [hbehind] at hstarts
  | none =>
    -- The token straddles the end of the key, so it is `!!`, and `!` starts a token with the first
    -- character of any other.
    rw [hbehind, Option.none_or, hbang, Option.any_some] at hstarts
    obtain ⟨found, hfound⟩ := Option.isSome_iff_exists.mp hstarts
    have hbang : ∀ c, Operator.ofChars? c '!' = some found → c = '!' := by
      intro c hc
      have hboth := Operator.ofChars?_eq_some_iff.mp hc
      cases found <;> cases hboth
      rfl
    rw [hbang _ hfound]
    cases op <;> rfl

/-- A rule can be written with an operator whose token starts with `!` if it can be written with
another one, unless only one of them takes an operand. -/
theorem Writable.bang (hr : r.Writable) (hbang : op.token.toList.head? = some '!')
    (hoperand : op.takesOperand = r.operator.takesOperand) : { r with operator := op }.Writable := by
  obtain ⟨hne, hkey, hnewline, hends, hempty⟩ := writable_iff.mp hr
  exact writable_iff.mpr ⟨hne, hkey, hnewline, hends.bang hbang, fun h => hempty (hoperand ▸ h)⟩

/-- A line and the key in front of it fix the rule. -/
theorem eq_of_toString_eq (hkey : r.key = s.key) (h : r.toString = s.toString) : r = s := by
  obtain ⟨key, op, operand⟩ := r
  obtain ⟨_, op', operand'⟩ := s
  cases hkey
  have hchars := congrArg String.toList h
  rw [toList_toString, toList_toString, List.append_assoc, List.append_assoc] at hchars
  have hbehind := List.append_cancel_left hchars
  have hlength : op.token.toList.length = op'.token.toList.length := by
    rw [op.length_token, op'.length_token]
  obtain ⟨htoken, hoperand⟩ := List.append_inj hbehind hlength
  obtain rfl := Operator.token_injective (String.toList_inj.mp htoken)
  obtain rfl := String.toList_inj.mp hoperand
  rfl

/-- Whether a line is a rule for just the given key. -/
def IsFor (key line : String) : Prop :=
  ∃ rule, parse? line = some rule ∧ rule.key = key

theorem isFor_iff : IsFor r.key r.toString ↔ r.Writable := by
  constructor
  · rintro ⟨rule, hparse, hkey⟩
    obtain ⟨hline, hrule⟩ := parse?_eq_some_iff.mp hparse
    rwa [eq_of_toString_eq hkey.symm hline]
  · intro hr
    exact ⟨r, parse?_eq_some_iff.mpr ⟨rfl, hr⟩, rfl⟩

/-! ## A text of one line -/

/-- The rule without one carriage return at the end of its operand. -/
def withoutReturn (r : Line) : Line :=
  { r with operand := String.ofList (Text.dropReturn r.operand.toList) }

theorem dropReturn_toString (r : Line) :
    Text.dropReturn r.toString.toList = r.withoutReturn.toString.toList := by
  have hlast : (r.key.toList ++ r.operator.token.toList).getLast? ≠ some '\r' := by
    cases r.operator <;> simp [Operator.token]
  rw [toList_toString, toList_toString, Text.dropReturn_append hlast, withoutReturn,
    String.toList_ofList]

theorem Writable.withoutReturn (hr : r.Writable) : r.withoutReturn.Writable := by
  obtain ⟨hne, hkey, hnewline, hends, hempty⟩ := writable_iff.mp hr
  refine writable_iff.mpr ⟨hne, hkey, ?_, hends, fun htakes => ?_⟩
  · rw [Line.withoutReturn, String.toList_ofList]
    exact fun hmem => hnewline (Text.mem_of_mem_dropReturn hmem)
  · rw [Line.withoutReturn, hempty htakes]
    rfl

theorem toString_ne_empty (r : Line) : r.toString ≠ "" := by
  intro h
  have hchars := congrArg String.toList h
  rw [toList_toString] at hchars
  cases hop : r.operator <;> simp [hop, Operator.token] at hchars

theorem ruleLines_toString (hr : r.Writable) :
    Text.ruleLines r.toString = [r.withoutReturn.toString] := by
  have hne : r.withoutReturn.toString.toList.isEmpty = false := by
    simpa using r.withoutReturn.toString_ne_empty
  unfold Text.ruleLines
  simp only [List.splitOn_eq_singleton hr.newline, List.map_cons, List.map_nil,
    dropReturn_toString, List.reverse_singleton, List.dropWhile_cons, hne, Bool.false_eq_true,
    if_false, String.ofList_toList]

/-- The rule that asks of the same key for the opposite. -/
def opposite (r : Line) : Line :=
  { r with operator := r.operator.opposite }

theorem condition_opposite (r : Line) :
    r.opposite.condition = r.condition.map Condition.opposite := by
  obtain ⟨key, op, operand⟩ := r
  -- The two operators with a pattern read it alike, and the others cannot be in error.
  cases hpattern : Pattern.compile operand with
  | error e =>
    cases op <;> simp [opposite, Operator.opposite, condition, hpattern, Except.map,
      Condition.opposite]
  | ok p =>
    cases op <;> simp [opposite, Operator.opposite, condition, hpattern, Except.map,
      Condition.opposite]

end Line

end Enrich.Rule

namespace Enrich.RuleSet

open Rule (Line Condition)

variable {r : Line} {key : String} {c : Condition} {attributes : Attributes}

theorem matches_addCondition_empty :
    (empty.addCondition key c).«matches» attributes = c.test (attributes.find? key) := by
  rw [Bool.eq_iff_iff, matches_iff]
  simp only [mem_conditionsOf_addCondition]
  constructor
  · rintro ⟨-, h⟩
    exact h key c (.inr ⟨rfl, rfl⟩)
  · intro h
    refine ⟨rfl, ?_⟩
    rintro x d (hd | ⟨rfl, rfl⟩)
    · cases hd
    · exact h

/-- What a text says that is the line of one rule. -/
theorem matchesText_toString (hr : r.Writable) : matchesText attributes r.toString =
    r.withoutReturn.condition.map fun c => c.test (attributes.find? r.key) := by
  have hparse : Line.parse? r.withoutReturn.toString = some r.withoutReturn :=
    Line.parse?_eq_some_iff.mpr ⟨rfl, hr.withoutReturn⟩
  rw [matchesText, parse, Line.ruleLines_toString hr, addLines, hparse]
  dsimp only
  cases r.withoutReturn.condition with
  | error e => rfl
  | ok c =>
    simp only [addLines, Except.map, matches_reverseMalformed]
    rw [matches_addCondition_empty]
    rfl

/-- What the text of a rule answers is not what that of the opposite rule does. -/
theorem matchesText_opposite_toString (hr : r.Writable) (hopposite : r.opposite.Writable) :
    matchesText attributes r.opposite.toString = (matchesText attributes r.toString).map not := by
  have hcondition : r.opposite.withoutReturn.condition =
      r.withoutReturn.condition.map Condition.opposite := r.withoutReturn.condition_opposite
  rw [matchesText_toString hr, matchesText_toString hopposite, hcondition]
  cases r.withoutReturn.condition with
  | error e => rfl
  | ok c => exact congrArg Except.ok (c.test_opposite _)

/-- A rule whose opposite starts its token with `!` has an opposite rule for the same key. -/
theorem opposed_of_isFor (r : Line) (attributes : Attributes)
    (hop : r.operator = .equals ∨ r.operator = .regexMatch ∨ r.operator = .present)
    (hfor : Line.IsFor r.key r.toString) : Line.IsFor r.key r.opposite.toString ∧
      ((∃ e, matchesText attributes r.toString = .error e ∧
          matchesText attributes r.opposite.toString = .error e) ∨
        ∃ b, matchesText attributes r.toString = .ok b ∧
          matchesText attributes r.opposite.toString = .ok !b) := by
  have hr : r.Writable := Line.isFor_iff.mp hfor
  have hbang : r.operator.opposite.token.toList.head? = some '!' := by
    rcases hop with hop | hop | hop <;> rw [hop] <;> rfl
  have hopposite : r.opposite.Writable := hr.bang hbang r.operator.takesOperand_opposite
  refine ⟨Line.isFor_iff.mpr hopposite, ?_⟩
  rw [matchesText_opposite_toString hr hopposite]
  cases matchesText attributes r.toString with
  | error e => exact .inl ⟨e, rfl, rfl⟩
  | ok b => exact .inr ⟨b, rfl, rfl⟩

/-- Only a rule with a pattern can fail to give an answer. -/
theorem matchesText_toString_ne_error (r : Line) (attributes : Attributes)
    (hop : r.operator = .equals ∨ r.operator = .present) (hfor : Line.IsFor r.key r.toString)
    (e : PatternError) :
    matchesText attributes r.toString ≠ .error e := by
  rw [matchesText_toString (Line.isFor_iff.mp hfor)]
  intro herror
  obtain ⟨key, op, operand⟩ := r
  rcases hop with rfl | rfl
  · cases herror
  · cases herror

/-- **Just one of two opposite rules holds.** If a line with `==` is a rule for a key, so is the line
with `!=` in its place, and of any attributes exactly one of them holds as a text. The same goes for
`=~` and `!~`, unless neither text can be read, and for `~~` and `!!`. -/
theorem matchesText_opposite (key operand : String) (attributes : Attributes) :
    (Line.IsFor key (key ++ "==" ++ operand) →
      Line.IsFor key (key ++ "!=" ++ operand) ∧
        ∃ b, matchesText attributes (key ++ "==" ++ operand) = .ok b ∧
          matchesText attributes (key ++ "!=" ++ operand) = .ok !b) ∧
    (Line.IsFor key (key ++ "=~" ++ operand) →
      Line.IsFor key (key ++ "!~" ++ operand) ∧
        ((∃ e, matchesText attributes (key ++ "=~" ++ operand) = .error e ∧
            matchesText attributes (key ++ "!~" ++ operand) = .error e) ∨
          ∃ b, matchesText attributes (key ++ "=~" ++ operand) = .ok b ∧
            matchesText attributes (key ++ "!~" ++ operand) = .ok !b)) ∧
    (Line.IsFor key (key ++ "~~") →
      Line.IsFor key (key ++ "!!") ∧
        ∃ b, matchesText attributes (key ++ "~~") = .ok b ∧
          matchesText attributes (key ++ "!!") = .ok !b) := by
  refine ⟨fun hfor => ?_, ?_, ?_⟩
  · let r : Line := ⟨key, .equals, operand⟩
    obtain ⟨hopposite, ⟨e, herror, -⟩ | hanswers⟩ :=
      opposed_of_isFor r attributes (.inl rfl) hfor
    · exact absurd herror (matchesText_toString_ne_error r attributes (.inl rfl) hfor e)
    · exact ⟨hopposite, hanswers⟩
  · exact opposed_of_isFor ⟨key, .regexMatch, operand⟩ attributes (.inr (.inl rfl))
  · have hpresent : key ++ "~~" = Line.toString ⟨key, .present, ""⟩ := String.append_empty.symm
    have habsent : key ++ "!!" = Line.toString ⟨key, .absent, ""⟩ := String.append_empty.symm
    rw [hpresent, habsent]
    intro hfor
    let r : Line := ⟨key, .present, ""⟩
    obtain ⟨hopposite, ⟨e, herror, -⟩ | hanswers⟩ :=
      opposed_of_isFor r attributes (.inr (.inr rfl)) hfor
    · exact absurd herror (matchesText_toString_ne_error r attributes (.inr rfl) hfor e)
    · exact ⟨hopposite, hanswers⟩

/-- Keys that are the start of a token, an operand that ends in a carriage return, and a pattern that
cannot be read. -/
theorem matchesText_opposite_hostile :
    Line.IsFor "!" ("!" ++ "==" ++ "x\r") ∧ Line.IsFor "!" ("!" ++ "!=" ++ "x\r") ∧
      matchesText ∅ ("!" ++ "!=" ++ "x\r") = .ok true ∧
      Line.IsFor "~" ("~" ++ "=~" ++ "(") ∧ (∃ e, matchesText ∅ ("~" ++ "!~" ++ "(") = .error e) ∧
      Line.IsFor "~" ("~" ++ "~~") ∧ matchesText ∅ ("~" ++ "!!") = .ok true := by
  have hequals : Line.IsFor "!" ("!" ++ "==" ++ "x\r") := ⟨_, rfl, rfl⟩
  have hmatch : Line.IsFor "~" ("~" ++ "=~" ++ "(") := ⟨_, rfl, rfl⟩
  have hpresent : Line.IsFor "~" ("~" ++ "~~") := ⟨_, rfl, rfl⟩
  obtain ⟨hnotEquals, b, hb, hnot⟩ := (matchesText_opposite "!" "x\r" ∅).1 hequals
  obtain ⟨-, hanswers⟩ := (matchesText_opposite "~" "(" ∅).2.1 hmatch
  obtain ⟨-, c, hc, habsent⟩ := (matchesText_opposite "~" "" ∅).2.2 hpresent
  refine ⟨hequals, hnotEquals, ?_, hmatch, ?_, hpresent, ?_⟩
  · have hfalse : matchesText ∅ ("!" ++ "==" ++ "x\r") = .ok false := rfl
    rw [hfalse] at hb
    cases hb
    exact hnot
  · rcases hanswers with ⟨e, -, herror⟩ | ⟨b, hb, -⟩
    · exact ⟨e, herror⟩
    · cases hb
  · have hfalse : matchesText ∅ ("~" ++ "~~") = .ok false := rfl
    rw [hfalse] at hc
    cases hc
    exact habsent

example : Line.parse? "a=!=b" = some ⟨"a=", .notEquals, "b"⟩ ∧
    Line.parse? "a===b" = some ⟨"a", .equals, "=b"⟩ := by
  decide

end Enrich.RuleSet
