import Enrich.Rule.Line

/-!
# The grammar of rule lines

A line is read as a rule exactly when it is the rule's key, token and operand one after the other
and nothing else could be its key: no token starts behind the key's first character and before its
end (`parse?_exact`). The reader looks for the first token that has a character before it; that this
leaves no second reading is `splitAtOperator_eq_some_iff`.
-/

namespace Enrich.Rule

/-! ## Tokens -/

namespace Operator

/-- Whether a token starts at a position of a text. -/
def StartsAt (text : List Char) (i : Nat) : Prop :=
  ∃ op : Operator, op.token.toList <+: text.drop i

theorem ofChars?_eq_some_iff {a b : Char} {op : Operator} :
    ofChars? a b = some op ↔ op.token.toList = [a, b] := by
  constructor
  · intro h
    unfold ofChars? at h
    split at h <;> cases h <;> rfl
  · intro h
    cases op <;> cases h <;> rfl

theorem takesOperand_eq_false_iff {op : Operator} :
    op.takesOperand = false ↔ op = .absent ∨ op = .present := by
  cases op <;> decide

theorem length_token (op : Operator) : op.token.toList.length = 2 := by
  cases op <;> rfl

theorem startsAt_succ {c : Char} {text : List Char} {i : Nat} :
    StartsAt (c :: text) (i + 1) ↔ StartsAt text i := Iff.rfl

/-- The tokens of a front part are those of the text that do not reach beyond it. -/
theorem startsAt_iff_of_prefix {front text : List Char} {i : Nat} (h : front <+: text) :
    StartsAt front i ↔ StartsAt text i ∧ i + 2 ≤ front.length := by
  obtain ⟨rest, rfl⟩ := h
  constructor
  · rintro ⟨op, hop⟩
    have hlength : op.token.toList.length ≤ (front.drop i).length := hop.length_le
    rw [op.length_token, List.length_drop] at hlength
    refine ⟨⟨op, ?_⟩, by omega⟩
    rw [List.drop_append_of_le_length (by omega)]
    exact hop.trans (List.prefix_append _ _)
  · rintro ⟨⟨op, hop⟩, hfits⟩
    have hlength : op.token.toList.length ≤ (front.drop i).length := by
      rw [op.length_token, List.length_drop]
      omega
    rw [List.drop_append_of_le_length (by omega)] at hop
    exact ⟨op, List.prefix_of_prefix_length_le hop (List.prefix_append _ _) hlength⟩

end Operator

namespace Line

open Operator (StartsAt)

theorem operatorAt?_eq_some_iff {text operand : List Char} {op : Operator} :
    operatorAt? text = some (op, operand) ↔ text = op.token.toList ++ operand := by
  constructor
  · intro h
    unfold operatorAt? at h
    split at h
    · obtain ⟨found, hfound, h⟩ := Option.map_eq_some_iff.mp h
      cases h
      rw [Operator.ofChars?_eq_some_iff.mp hfound]
      rfl
    · cases h
  · rintro rfl
    cases op <;> rfl

theorem operatorAt?_eq_none_iff {text : List Char} :
    operatorAt? text = none ↔ ¬ StartsAt text 0 := by
  rw [Option.eq_none_iff_forall_ne_some]
  constructor
  · rintro h ⟨op, operand, hop⟩
    exact h (op, operand) (operatorAt?_eq_some_iff.mpr hop.symm)
  · rintro h ⟨op, operand⟩ hop
    exact h ⟨op, operand, (operatorAt?_eq_some_iff.mp hop).symm⟩

/-! ## The first token behind a key -/

/-- The reader splits a text behind the shortest front part that is not empty and has a token behind
it. -/
theorem splitAtOperator_eq_some_iff {text key operand : List Char} {op : Operator} :
    splitAtOperator text = some (key, op, operand) ↔
      text = key ++ op.token.toList ++ operand ∧ key ≠ [] ∧
        ∀ i, 0 < i → i < key.length → ¬ StartsAt text i := by
  induction text generalizing key with
  | nil =>
    constructor
    · intro h
      cases h
    · rintro ⟨h, hkey, -⟩
      simp [hkey] at h
  | cons c rest ih =>
    simp only [splitAtOperator]
    split
    · next found behind hfound =>
      have hrest := operatorAt?_eq_some_iff.mp hfound
      constructor
      · intro h
        cases h
        refine ⟨by rw [hrest]; rfl, by simp, fun i hi hlt => ?_⟩
        simp only [List.length_cons, List.length_nil] at hlt
        omega
      · rintro ⟨htext, hkey, hstart⟩
        cases key with
        | nil => exact absurd rfl hkey
        | cons d key =>
          obtain ⟨rfl, htail⟩ := List.cons.inj htext
          cases key with
          | nil =>
            have hsame := operatorAt?_eq_some_iff.mpr htail
            rw [hfound] at hsame
            cases hsame
            rfl
          | cons e key =>
            -- the token that was found starts inside this key
            refine absurd ⟨found, ?_⟩ (hstart 1 (by omega) (by simp))
            exact ⟨behind, hrest.symm⟩
    · next hnone =>
      have hzero := operatorAt?_eq_none_iff.mp hnone
      rw [Option.map_eq_some_iff]
      constructor
      · rintro ⟨⟨front, op, operand⟩, hsplit, h⟩
        cases h
        obtain ⟨h, hfront, hstart⟩ := ih.mp hsplit
        refine ⟨by rw [h]; rfl, by simp, fun i hi hlt => ?_⟩
        obtain ⟨i, rfl⟩ := Nat.exists_eq_add_of_le' hi
        rw [Operator.startsAt_succ]
        by_cases hi : i = 0
        · exact hi ▸ hzero
        · exact hstart i (by omega) (by simpa using hlt)
      · rintro ⟨htext, hkey, hstart⟩
        cases key with
        | nil => exact absurd rfl hkey
        | cons d key =>
          obtain ⟨rfl, htail⟩ := List.cons.inj htext
          refine ⟨(key, op, operand), ih.mpr ⟨htail, ?_, fun i hi hlt hat => ?_⟩, rfl⟩
          · rintro rfl
            exact hzero ⟨op, operand, htail.symm⟩
          · exact hstart (i + 1) (by omega) (by simpa using hlt) (Operator.startsAt_succ.mpr hat)

/-! ## Rules that can be written -/

/-- Whether a rule is read back from the line that writes it: its key is not empty, there is no
newline, no token starts inside the key, and an operator without operand has none. -/
structure Writable (r : Line) : Prop where
  key_ne : r.key ≠ ""
  newline : '\n' ∉ r.toString.toList
  key_ends : ∀ i, 0 < i → i < r.key.length → ¬ StartsAt r.toString.toList i
  operand : r.operator.takesOperand = false → r.operand = ""

theorem toList_toString (r : Line) :
    r.toString.toList = r.key.toList ++ r.operator.token.toList ++ r.operand.toList := by
  simp [toString]

/-- The reader splits the line of a rule at the rule's own operator, if no token starts inside the
key. -/
theorem splitAtOperator_toString {r : Line} (hkey : r.key ≠ "")
    (hends : ∀ i, 0 < i → i < r.key.length → ¬ StartsAt r.toString.toList i) :
    splitAtOperator r.toString.toList = some (r.key.toList, r.operator, r.operand.toList) :=
  splitAtOperator_eq_some_iff.mpr
    ⟨toList_toString r, by simpa using hkey, by rwa [String.length_toList]⟩

theorem parse?_eq_some_iff {line : String} {r : Line} :
    parse? line = some r ↔ line = r.toString ∧ r.Writable := by
  unfold parse?
  constructor
  · intro h
    split at h
    · cases h
    · next hnewline =>
      split at h
      · cases h
      · next key op operand hsplit =>
        split at h
        · next hoperand =>
          cases h
          obtain ⟨htext, hkey, hends⟩ := splitAtOperator_eq_some_iff.mp hsplit
          have hline : line = toString ⟨String.ofList key, op, String.ofList operand⟩ := by
            rw [← String.toList_inj, htext, toList_toString]
            simp only [String.toList_ofList]
          rw [hline] at hnewline htext hends
          refine ⟨hline, ?_, hnewline, ?_, ?_⟩
          · simpa using hkey
          · simpa using hends
          · intro htakes
            rw [htakes, Bool.false_or, List.isEmpty_iff] at hoperand
            simp [hoperand]
        · cases h
  · rintro ⟨rfl, hr⟩
    rw [if_neg hr.newline, splitAtOperator_toString hr.key_ne hr.key_ends]
    have hoperand : (r.operator.takesOperand || r.operand.toList.isEmpty) = true := by
      by_cases htakes : r.operator.takesOperand = true
      · rw [htakes, Bool.true_or]
      · simp [hr.operand (Bool.eq_false_iff.mpr htakes)]
    simp [hoperand]

/-- **The grammar of rule lines.** A line is read as a rule exactly when the rule's key, token and
operand make up the line, the key is not empty, there is no newline, no token starts behind the
key's first character and before its end, and an operator without operand has none. So what is read
writes its line again; writing and reading gives the same rule for just the rules that can be
written, every line that writes none of these is refused, and text behind an operator without
operand is never read again with an operator behind it. -/
theorem parse?_exact :
    (∀ line key op operand, parse? line = some ⟨key, op, operand⟩ ↔
      line = key ++ op.token ++ operand ∧ key ≠ "" ∧ '\n' ∉ line.toList ∧
        (∀ i, 1 ≤ i → i < key.length → ¬ StartsAt line.toList i) ∧
        (op = .absent ∨ op = .present → operand = "")) ∧
    (∀ line r, parse? line = some r → r.toString = line) ∧
    (∀ r : Line, parse? r.toString = some r ↔ r.Writable) ∧
    (∀ line, parse? line = none ↔ ∀ r : Line, r.Writable → r.toString ≠ line) ∧
    ∀ r : Line, r.key ≠ "" → (∀ i, 1 ≤ i → i < r.key.length → ¬ StartsAt r.toString.toList i) →
      r.operator.takesOperand = false → r.operand ≠ "" → parse? r.toString = none := by
  refine ⟨fun line key op operand => ?_, fun line r h => ?_, fun r => ?_, fun line => ?_, ?_⟩
  · rw [parse?_eq_some_iff]
    constructor
    · rintro ⟨rfl, hr⟩
      exact ⟨rfl, hr.key_ne, hr.newline, hr.key_ends,
        fun hop => hr.operand (Operator.takesOperand_eq_false_iff.mpr hop)⟩
    · rintro ⟨rfl, hkey, hnewline, hends, hoperand⟩
      exact ⟨rfl, hkey, hnewline, hends,
        fun htakes => hoperand (Operator.takesOperand_eq_false_iff.mp htakes)⟩
  · exact (parse?_eq_some_iff.mp h).1.symm
  · rw [parse?_eq_some_iff]
    exact and_iff_right rfl
  · rw [Option.eq_none_iff_forall_ne_some]
    refine forall_congr' fun r => ?_
    rw [ne_eq, parse?_eq_some_iff]
    exact ⟨fun h hr hline => h ⟨hline.symm, hr⟩, fun h ⟨hline, hr⟩ => h hr hline.symm⟩
  · intro r hkey hends htakes hoperand
    unfold parse?
    split
    · rfl
    · rw [splitAtOperator_toString hkey hends]
      simp [htakes, hoperand]

end Line

end Enrich.Rule
