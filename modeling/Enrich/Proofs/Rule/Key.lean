import Enrich.Proofs.Rule.Line

/-!
# Tokens in keys

A line is cut at the first token that has a character before it. So no token stands in a key, with
one exception: a line may start with a token, which is not where it is cut, and then the key starts
with this token, unless the line is cut right behind the token's first character (`tokens_in_key`).
The line `==a==b` is a rule for the key `==a` (`key_with_token`).
-/

namespace Enrich.Rule.Line

open Operator (StartsAt)

variable {line : String} {r : Line}

/-- Whether a token stands somewhere in a text. -/
def HasToken (text : List Char) : Prop :=
  ∃ op : Operator, op.token.toList <:+: text

theorem hasToken_iff {text : List Char} : HasToken text ↔ ∃ i, StartsAt text i := by
  constructor
  · rintro ⟨op, front, back, rfl⟩
    refine ⟨front.length, op, ?_⟩
    rw [List.append_assoc, List.drop_left]
    exact List.prefix_append _ _
  · rintro ⟨i, op, hop⟩
    exact ⟨op, hop.isInfix.trans (List.drop_suffix i text).isInfix⟩

theorem key_prefix (r : Line) : r.key.toList <+: r.toString.toList := by
  rw [toList_toString, List.append_assoc]
  exact List.prefix_append _ _

/-- A token in a key is the start of the line. -/
theorem Writable.eq_zero_of_startsAt_key (hr : r.Writable) {i : Nat}
    (h : StartsAt r.key.toList i) : i = 0 := by
  obtain ⟨hline, hfits⟩ := (Operator.startsAt_iff_of_prefix r.key_prefix).mp h
  rw [String.length_toList] at hfits
  rcases Nat.eq_zero_or_pos i with hzero | hpos
  · exact hzero
  · exact absurd hline (hr.key_ends i hpos (by omega))

/-- A key has more than one character unless a token starts behind the first one. -/
theorem Writable.two_le_length_key_iff (hr : r.Writable) :
    2 ≤ r.key.length ↔ ¬ StartsAt r.toString.toList 1 := by
  have hpos : 0 < r.key.length := by
    rw [← String.length_toList, List.length_pos_iff]
    simpa using hr.key_ne
  constructor
  · intro hlength
    exact hr.key_ends 1 (by omega) (by omega)
  · intro hnone
    rcases Nat.lt_or_ge r.key.length 2 with hshort | hlong
    · -- Behind a key of one character stands the token of the rule.
      have hone : r.key.toList.length = 1 := by
        rw [String.length_toList]
        omega
      refine absurd ⟨r.operator, r.operand.toList, ?_⟩ hnone
      rw [toList_toString, List.append_assoc, ← hone, List.drop_left]
    · exact hlong

/-- **A token stands in a key only at the start of a line.** In the key of a line that is a rule a
token can start nowhere but at the first character. There is one just if the line itself starts with
a token and no token starts behind the line's first character. -/
theorem tokens_in_key (h : parse? line = some r) :
    (∀ i, StartsAt r.key.toList i → i = 0) ∧
      (HasToken r.key.toList ↔ StartsAt line.toList 0 ∧ ¬ StartsAt line.toList 1) := by
  obtain ⟨rfl, hr⟩ := parse?_eq_some_iff.mp h
  have hzero : ∀ i, StartsAt r.key.toList i → i = 0 := by
    intro i
    exact hr.eq_zero_of_startsAt_key
  refine ⟨hzero, ?_⟩
  rw [hasToken_iff, ← hr.two_le_length_key_iff, ← String.length_toList, ← Nat.zero_add 2,
    ← Operator.startsAt_iff_of_prefix r.key_prefix]
  constructor
  · rintro ⟨i, hi⟩
    rwa [hzero i hi] at hi
  · intro hstarts
    exact ⟨0, hstarts⟩

/-- Two lines that start with a token. The first one is cut behind the token's first character. -/
theorem tokens_in_key_start :
    (∃ r, parse? "!!=a==b" = some r ∧ r.key = "!" ∧ ¬ HasToken r.key.toList) ∧
      ∃ r, parse? "!!a==b" = some r ∧ r.key = "!!a" ∧ HasToken r.key.toList := by
  constructor
  · have hread : parse? "!!=a==b" = some ⟨"!", .notEquals, "a==b"⟩ := by decide
    refine ⟨_, hread, rfl, fun htoken => ?_⟩
    have hnone := ((tokens_in_key hread).2.mp htoken).2
    exact hnone ⟨.notEquals, by decide⟩
  · have hread : parse? "!!a==b" = some ⟨"!!a", .equals, "b"⟩ := by decide
    have hstarts : StartsAt "!!a==b".toList 0 := ⟨.absent, by decide⟩
    have hnone : ¬ StartsAt "!!a==b".toList 1 := by
      rintro ⟨op, hop⟩
      cases op <;> revert hop <;> decide
    exact ⟨_, hread, rfl, (tokens_in_key hread).2.mpr ⟨hstarts, hnone⟩⟩

/-- A key can have a token in it. -/
theorem key_with_token :
    ¬ ∀ line r, parse? line = some r → ∀ op : Operator, ¬ op.token.toList <:+: r.key.toList := by
  intro h
  have hread : parse? "==a==b" = some ⟨"==a", .equals, "b"⟩ := by decide
  exact h _ _ hread .equals ⟨[], ['a'], by decide⟩

end Enrich.Rule.Line
