import Enrich.Proofs.Pattern.Reading
import Enrich.Proofs.Regex.Matching
import Enrich.Rule.Condition

/-!
# Conditions on patterns

What the two operators with a pattern ask of a value: a value satisfies one of them if the pattern
of the rule matches all of it (`test_regexMatch_iff`), and the other one asks for the opposite.
-/

namespace Enrich.Rule

theorem condition_regexMatch {key operand : String} {c : Condition}
    (h : (⟨key, .regexMatch, operand⟩ : Line).condition = .ok c) :
    ∃ r, Pattern.compile operand = .ok r ∧ c = .fullMatch r ∧
      (⟨key, .regexNotMatch, operand⟩ : Line).condition = .ok (.noFullMatch r) := by
  obtain ⟨r, hr, rfl⟩ := map_eq_ok.mp h
  exact ⟨r, hr, rfl, map_eq_ok.mpr ⟨r, hr, rfl⟩⟩

/-- **A pattern is matched against the whole value.** If the operand of a rule is a usable pattern,
its condition holds on just the values all of whose text the pattern matches, never on an absent
one; and the rule with the negated operator, whose operand is usable too, holds on an absent value
and on those on which the first one does not hold. -/
theorem test_regexMatch_iff {key operand : String} {c : Condition}
    (h : (⟨key, .regexMatch, operand⟩ : Line).condition = .ok c) :
    ∃ p, Pattern.parse operand = .ok p ∧
      (∀ value, c.test (some value) = true ↔ p.MatchesWhole value) ∧
      c.test none = false ∧
      ∃ d, (⟨key, .regexNotMatch, operand⟩ : Line).condition = .ok d ∧
        ∀ value, d.test value = true ↔ value = none ∨ c.test value = false := by
  obtain ⟨r, hr, rfl, hd⟩ := condition_regexMatch h
  obtain ⟨p, hp, hmatches⟩ := Pattern.compile_spec hr
  refine ⟨p, hp, fun value => ?_, rfl, _, hd, fun value => ?_⟩
  · rw [Pattern.MatchesWhole, ← hmatches, ← Regex.matchesWhole_iff]
    rfl
  · cases value with
    | none => simp [Condition.test]
    | some value => simp [Condition.test]

/-- A pattern that ends in a comment matches whole values, and not the front of one. -/
theorem test_regexMatch_comment :
    ∃ c, (⟨"host", .regexMatch, "(?x)web|d*?b # comment"⟩ : Line).condition = .ok c ∧
      c.test (some "ddb") = true ∧ c.test (some "webx") = false ∧
      ∃ p, Pattern.parse "(?x)web|d*?b # comment" = .ok p ∧
        p.MatchesWhole "ddb" ∧ ¬ p.MatchesWhole "webx" := by
  refine ⟨_, rfl, by decide, by decide, ?_⟩
  obtain ⟨p, hp, hwhole, -⟩ := test_regexMatch_iff
    (rfl : (⟨"host", .regexMatch, "(?x)web|d*?b # comment"⟩ : Line).condition = .ok _)
  refine ⟨p, hp, (hwhole "ddb").mp (by decide), fun hmatch => ?_⟩
  exact absurd ((hwhole "webx").mpr hmatch) (by decide)

end Enrich.Rule
