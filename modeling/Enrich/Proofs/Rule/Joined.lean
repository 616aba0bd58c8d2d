import Enrich.Proofs.Rule.BadPattern
import Enrich.Proofs.Rule.RuleSet

/-!
# Rule texts put together

Whether a text can be read, and what its rules ask, is a matter of its lines one by one
(`exists_parse_iff`, `matches_iff_of_parse`). So two texts one after the other ask what both of them
ask, unless empty lines at the end of the first one come to stand between rules, where they count as
malformed; and neither the order of lines nor how often a line stands in a text makes a difference
(`parse_joined`).
-/

namespace Enrich.RuleSet

open Rule (Line)

variable {s : RuleSet} {text : String}

/-! ## One line -/

/-- Whether a line is no rule, or a rule whose pattern can be read. -/
def Readable (line : String) : Prop :=
  ∀ rule, Line.parse? line = some rule → ∃ c, rule.condition = .ok c

/-- Whether a line is a rule that holds for some attributes. -/
def Holds (attributes : Attributes) (line : String) : Prop :=
  ∃ rule c, Line.parse? line = some rule ∧ rule.condition = .ok c ∧
    c.test (attributes.find? rule.key) = true

theorem readable_empty : Readable "" := by
  rintro rule hrule
  cases hrule

/-! ## All lines -/

/-- A text can be read if each of its lines can. -/
theorem exists_parse_iff :
    (∃ s, parse text = .ok s) ↔ ∀ line ∈ Text.ruleLines text, Readable line := by
  simp only [exists_parse_iff_forall_rules, List.forall_mem_filterMap, Readable,
    Line.exists_condition_iff]

/-- The empty lines at the end of a text do not matter for that. -/
theorem exists_parse_iff_allLines :
    (∃ s, parse text = .ok s) ↔ ∀ line ∈ Text.allLines text, Readable line := by
  rw [exists_parse_iff]
  constructor
  · intro h line hline
    by_cases hempty : line = ""
    · rw [hempty]
      exact readable_empty
    · exact h line (Text.mem_ruleLines_of_ne_empty hline hempty)
  · intro h line hline
    exact h line (Text.mem_allLines_of_mem_ruleLines hline)

theorem exists_parse_eq_error_iff :
    (∃ e, parse text = .error e) ↔ ∃ line ∈ Text.allLines text, ¬ Readable line := by
  simp only [exists_eq_error_iff, exists_parse_iff_allLines, not_forall, exists_prop]

theorem matches_iff_of_parse (h : parse text = .ok s) {attributes : Attributes} :
    s.«matches» attributes = true ↔ ∀ line ∈ Text.ruleLines text, Holds attributes line := by
  obtain ⟨t, ht, rfl⟩ := records_of_parse h
  rw [matches_reverseMalformed]
  exact ht.matches_iff_forall_lines

/-! ## Texts put together -/

theorem exists_parse_append_iff {text₁ text₂ : String} :
    (∃ s, parse (text₁ ++ "\n" ++ text₂) = .ok s) ↔
      (∃ s₁, parse text₁ = .ok s₁) ∧ ∃ s₂, parse text₂ = .ok s₂ := by
  simp only [exists_parse_iff_allLines, Text.allLines_append, List.forall_mem_append]

/-- Neither the order of the lines of a text nor how often they stand there makes a difference. -/
theorem same_of_ruleLines {text₁ text₂ : String}
    (h : ∀ line, line ∈ Text.ruleLines text₁ ↔ line ∈ Text.ruleLines text₂) :
    ((∃ e, parse text₁ = .error e) ∧ ∃ e, parse text₂ = .error e) ∨
      ∃ s₁ s₂, parse text₁ = .ok s₁ ∧ parse text₂ = .ok s₂ ∧
        ∀ attributes, s₁.«matches» attributes = s₂.«matches» attributes := by
  have hread : (∃ s₁, parse text₁ = .ok s₁) ↔ ∃ s₂, parse text₂ = .ok s₂ := by
    simp only [exists_parse_iff, h]
  cases h₁ : parse text₁ with
  | error e₁ =>
    left
    cases h₂ : parse text₂ with
    | error e₂ => exact ⟨⟨e₁, rfl⟩, e₂, rfl⟩
    | ok s₂ =>
      obtain ⟨s₁, hs₁⟩ := hread.mpr ⟨s₂, h₂⟩
      rw [h₁] at hs₁
      cases hs₁
  | ok s₁ =>
    right
    obtain ⟨s₂, h₂⟩ := hread.mp ⟨s₁, h₁⟩
    refine ⟨s₁, s₂, rfl, h₂, fun attributes => ?_⟩
    rw [Bool.eq_iff_iff, matches_iff_of_parse h₁, matches_iff_of_parse h₂]
    simp only [h]

/-- **Rule texts can be put together.** Two texts with a newline between them can be read if and only
if both can. Then the joined text asks all that the two ask, and no more if the last line of the
first one is not empty. Lines of which none is empty, put together in any order and any number of
times, make texts that cannot be read or match the same attributes. -/
theorem parse_joined :
    (∀ text₁ text₂ : String,
      ((∃ e, parse (text₁ ++ "\n" ++ text₂) = .error e) ↔
        (∃ e, parse text₁ = .error e) ∨ ∃ e, parse text₂ = .error e) ∧
      ∀ s, parse (text₁ ++ "\n" ++ text₂) = .ok s →
        ∃ s₁ s₂, parse text₁ = .ok s₁ ∧ parse text₂ = .ok s₂ ∧ ∀ attributes,
          (s.«matches» attributes = true →
            s₁.«matches» attributes = true ∧ s₂.«matches» attributes = true) ∧
          ((Text.allLines text₁).getLast? ≠ some "" → s₁.«matches» attributes = true →
            s₂.«matches» attributes = true → s.«matches» attributes = true)) ∧
    ∀ lines₁ lines₂ : List String,
      (∀ line ∈ lines₁, '\n' ∉ line.toList ∧ Text.stripReturn line ≠ "") →
      (∀ line, line ∈ lines₁ ↔ line ∈ lines₂) →
      ((∃ e, parse ("\n".intercalate lines₁) = .error e) ∧
          ∃ e, parse ("\n".intercalate lines₂) = .error e) ∨
        ∃ s₁ s₂, parse ("\n".intercalate lines₁) = .ok s₁ ∧
          parse ("\n".intercalate lines₂) = .ok s₂ ∧
          ∀ attributes, s₁.«matches» attributes = s₂.«matches» attributes := by
  refine ⟨fun text₁ text₂ => ⟨?_, fun s hs => ?_⟩, fun lines₁ lines₂ hlines hsame => ?_⟩
  · simp only [exists_parse_eq_error_iff, Text.allLines_append, List.mem_append, or_and_right,
      exists_or]
  · obtain ⟨⟨s₁, hs₁⟩, s₂, hs₂⟩ := exists_parse_append_iff.mp ⟨s, hs⟩
    refine ⟨s₁, s₂, hs₁, hs₂, fun attributes => ?_⟩
    rw [matches_iff_of_parse hs, matches_iff_of_parse hs₁, matches_iff_of_parse hs₂]
    refine ⟨fun h => ⟨fun line hline => ?_, fun line hline => ?_⟩, fun hlast h₁ h₂ line hline => ?_⟩
    · exact h line (Text.mem_ruleLines_append (.inl hline))
    · exact h line (Text.mem_ruleLines_append (.inr hline))
    · rcases Text.mem_or_mem_of_mem_ruleLines_append hlast hline with hline | hline
      · exact h₁ line hline
      · exact h₂ line hline
  · apply same_of_ruleLines
    intro line
    obtain ⟨hnewline, hne⟩ := forall₂_and.mp hlines
    rw [Text.ruleLines_intercalate hnewline hne, Text.ruleLines_intercalate, List.mem_map,
      List.mem_map]
    · simp only [hsame]
    · intro other hother
      exact hnewline other ((hsame other).mpr hother)
    · intro other hother
      exact hne other ((hsame other).mpr hother)

/-- A text that ends in a carriage return, one that ends in empty lines, and lines in another order. -/
theorem parse_joined_endings :
    (∃ s s₁ s₂, parse ("b~~\r" ++ "\n" ++ "a!=2\n\r\n") = .ok s ∧ parse "b~~\r" = .ok s₁ ∧
      parse "a!=2\n\r\n" = .ok s₂ ∧ (Text.allLines "b~~\r").getLast? ≠ some "" ∧
      s₁.«matches» (StringMap.ofList [("b", "")]) = true ∧
      s₂.«matches» (StringMap.ofList [("b", "")]) = true ∧
      s.«matches» (StringMap.ofList [("b", "")]) = true) ∧
    ∃ s₁ s₂, parse ("\n".intercalate ["a=~x|y", "b~~"]) = .ok s₁ ∧
      parse ("\n".intercalate ["b~~", "a=~x|y", "b~~"]) = .ok s₂ ∧
      ∀ attributes, s₁.«matches» attributes = s₂.«matches» attributes := by
  constructor
  · obtain ⟨s, hs⟩ : ∃ s, parse ("b~~\r" ++ "\n" ++ "a!=2\n\r\n") = .ok s := ⟨_, rfl⟩
    obtain ⟨s₁, s₂, hs₁, hs₂, hmatches⟩ := (parse_joined.1 "b~~\r" "a!=2\n\r\n").2 s hs
    have hlast : (Text.allLines "b~~\r").getLast? ≠ some "" := by decide
    have h₁ : s₁.«matches» (StringMap.ofList [("b", "")]) = true := by
      cases hs₁
      rfl
    have h₂ : s₂.«matches» (StringMap.ofList [("b", "")]) = true := by
      cases hs₂
      rfl
    exact ⟨s, s₁, s₂, hs, hs₁, hs₂, hlast, h₁, h₂, (hmatches _).2 hlast h₁ h₂⟩
  · have hlines : ∀ line ∈ ["a=~x|y", "b~~"], '\n' ∉ line.toList ∧ Text.stripReturn line ≠ "" := by
      decide
    have hsame : ∀ line, line ∈ ["a=~x|y", "b~~"] ↔ line ∈ ["b~~", "a=~x|y", "b~~"] := by
      intro line
      simp only [List.mem_cons, List.not_mem_nil, or_false]
      constructor
      · rintro (h | h)
        · exact .inr (.inl h)
        · exact .inl h
      · rintro (h | h | h)
        · exact .inr h
        · exact .inl h
        · exact .inr h
    rcases parse_joined.2 _ _ hlines hsame with ⟨⟨e, he⟩, -⟩ | hsets
    · cases he
    · exact hsets

example : ∃ s, parse ("b~~\n" ++ "\n" ++ "a!=2") = .ok s ∧ s.malformedLines = [2] :=
  ⟨_, rfl, rfl⟩

end Enrich.RuleSet
