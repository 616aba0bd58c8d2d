import Enrich.Proofs.Except
import Enrich.Rule.RuleSet
import Mathlib.Logic.Basic

/-!
# Rules with a bad pattern

A rule text is refused for one reason only: one of its rules has a pattern that is too long or
cannot be compiled. Lines that are no rules are passed over, so the error is that of the first such
rule among the rules of the text, wherever other lines stand between them (`RuleSet.parse_error_iff`).
-/

namespace Enrich

/-! ## Patterns -/

namespace Pattern

/-- Whether a text is a pattern that can be compiled: it can be read, what was read has a meaning,
and the expression for it is not too large. -/
def Compiles (text : String) : Prop :=
  ∃ p r, parse text = .ok p ∧ p.toRegex = .ok r ∧ r.fits = true

/-- Why the text of a pattern is refused. Its length is looked at first. -/
inductive Refuses : String → PatternError → Prop
  | tooLong {text : String} (hlong : 500 < text.utf8ByteSize) : Refuses text .tooLong
  | unreadable {text : String} {cause : PatternError} (hshort : text.utf8ByteSize ≤ 500)
      (hparse : parse text = .error cause) : Refuses text cause
  | meaningless {text : String} {cause : PatternError} {p : Pattern}
      (hshort : text.utf8ByteSize ≤ 500) (hparse : parse text = .ok p)
      (hregex : p.toRegex = .error cause) : Refuses text cause
  | tooLarge {text : String} {p : Pattern} {r : Regex} (hshort : text.utf8ByteSize ≤ 500)
      (hparse : parse text = .ok p) (hregex : p.toRegex = .ok r) (hfits : r.fits = false) :
      Refuses text .tooLarge

variable {text : String} {cause : PatternError}

theorem compile_of_long (h : 500 < text.utf8ByteSize) : compile text = .error .tooLong :=
  if_pos h

theorem compile_of_short (h : text.utf8ByteSize ≤ 500) : compile text =
    (parse text).bind fun p => p.toRegex.bind fun r =>
      if r.fits then .ok r else .error .tooLarge := by
  have hshort : ¬ maxPatternBytes < text.utf8ByteSize := Nat.not_lt.mpr h
  exact if_neg hshort

theorem compile_eq_error_iff : compile text = .error cause ↔ Refuses text cause := by
  rcases Nat.lt_or_ge 500 text.utf8ByteSize with hlong | hshort
  · rw [compile_of_long hlong]
    constructor
    · intro h
      cases h
      exact .tooLong hlong
    · intro h
      cases h with
      | tooLong _ => rfl
      | unreadable hshort _ | meaningless hshort _ _ | tooLarge hshort _ _ _ => omega
  · simp only [compile_of_short hshort, bind_eq_error_iff, ite_error_eq_error_iff]
    constructor
    · rintro (hparse | ⟨p, hparse, hregex | ⟨r, hregex, hfits, rfl⟩⟩)
      · exact .unreadable hshort hparse
      · exact .meaningless hshort hparse hregex
      · exact .tooLarge hshort hparse hregex (Bool.eq_false_iff.mpr hfits)
    · intro h
      cases h with
      | tooLong hlong => omega
      | unreadable _ hparse => exact .inl hparse
      | meaningless _ hparse hregex => exact .inr ⟨_, hparse, .inl hregex⟩
      | tooLarge _ hparse hregex hfits =>
        exact .inr ⟨_, hparse, .inr ⟨_, hregex, Bool.eq_false_iff.mp hfits, rfl⟩⟩

theorem exists_compile_iff :
    (∃ r, compile text = .ok r) ↔ text.utf8ByteSize ≤ 500 ∧ Compiles text := by
  rcases Nat.lt_or_ge 500 text.utf8ByteSize with hlong | hshort
  · rw [compile_of_long hlong]
    constructor
    · rintro ⟨r, hr⟩
      cases hr
    · rintro ⟨hshort, -⟩
      omega
  · rw [compile_of_short hshort, and_iff_right hshort]
    constructor
    · rintro ⟨made, hmade⟩
      obtain ⟨p, hparse, hmade⟩ := bind_eq_ok.mp hmade
      obtain ⟨r, hregex, hmade⟩ := bind_eq_ok.mp hmade
      exact ⟨p, r, hparse, hregex, (ite_error_eq_ok_iff.mp hmade).1⟩
    · rintro ⟨p, r, hparse, hregex, hfits⟩
      exact ⟨r, bind_eq_ok.mpr ⟨p, hparse, bind_eq_ok.mpr ⟨r, hregex, if_pos hfits⟩⟩⟩

theorem exists_refuses_iff :
    (∃ cause, Refuses text cause) ↔ 500 < text.utf8ByteSize ∨ ¬ Compiles text := by
  simp only [← compile_eq_error_iff]
  rw [exists_eq_error_iff, exists_compile_iff, not_and_or, Nat.not_le]

end Pattern

namespace Rule.Line

variable {rule : Line} {rules : List Line} {cause : PatternError}

/-! ## Rules -/

/-- Whether a rule has a pattern that is longer than 500 bytes or cannot be compiled. -/
def HasBadPattern (rule : Line) : Prop :=
  (rule.operator = .regexMatch ∨ rule.operator = .regexNotMatch) ∧
    (500 < rule.operand.utf8ByteSize ∨ ¬ Pattern.Compiles rule.operand)

/-- Whether a rule is refused for its pattern, and why. -/
def Refused (rule : Line) (cause : PatternError) : Prop :=
  (rule.operator = .regexMatch ∨ rule.operator = .regexNotMatch) ∧
    Pattern.Refuses rule.operand cause

theorem exists_refused_iff : (∃ cause, rule.Refused cause) ↔ rule.HasBadPattern := by
  unfold Refused HasBadPattern
  rw [exists_and_left, Pattern.exists_refuses_iff]

theorem condition_eq_error_iff : rule.condition = .error cause ↔ rule.Refused cause := by
  rw [Refused, ← Pattern.compile_eq_error_iff]
  unfold condition
  cases hop : rule.operator <;> simp [map_eq_error_iff]

theorem exists_condition_iff : (∃ c, rule.condition = .ok c) ↔ ¬ rule.HasBadPattern := by
  rw [← exists_refused_iff, ← not_iff_not, not_not, ← exists_eq_error_iff]
  exact exists_congr fun cause => condition_eq_error_iff

/-- Whether an error is that of the first rule whose pattern is refused. -/
def FirstRefused (rules : List Line) (cause : PatternError) : Prop :=
  ∃ front rule back, rules = front ++ rule :: back ∧
    (∀ earlier ∈ front, ¬ earlier.HasBadPattern) ∧ rule.Refused cause

theorem not_firstRefused_nil : ¬ FirstRefused [] cause := by
  rintro ⟨front, rule, back, h, -⟩
  cases front <;> cases h

theorem firstRefused_cons : FirstRefused (rule :: rules) cause ↔
    rule.Refused cause ∨ ¬ rule.HasBadPattern ∧ FirstRefused rules cause := by
  constructor
  · rintro ⟨front, refused, back, hrules, hfront, hrefused⟩
    cases front with
    | nil =>
      cases hrules
      exact .inl hrefused
    | cons first front =>
      cases hrules
      obtain ⟨hfirst, hfront⟩ := List.forall_mem_cons.mp hfront
      exact .inr ⟨hfirst, front, refused, back, rfl, hfront, hrefused⟩
  · rintro (hrefused | ⟨hrule, front, refused, back, rfl, hfront, hrefused⟩)
    · exact ⟨[], rule, rules, rfl, by simp, hrefused⟩
    · exact ⟨rule :: front, refused, back, rfl, List.forall_mem_cons.mpr ⟨hrule, hfront⟩, hrefused⟩

theorem exists_firstRefused_iff :
    (∃ cause, FirstRefused rules cause) ↔ ∃ rule ∈ rules, rule.HasBadPattern := by
  induction rules with
  | nil =>
    simp [not_firstRefused_nil]
  | cons rule rules ih =>
    simp only [firstRefused_cons, exists_or, exists_and_left, exists_refused_iff, ih]
    by_cases hrule : rule.HasBadPattern
    · simp [hrule]
    · simp [hrule]

end Rule.Line

namespace RuleSet

open Rule (Line)

variable {s : RuleSet} {lines : List String} {text : String} {number : Nat} {cause : PatternError}

/-! ## Texts -/

theorem addLines_eq_error_iff : s.addLines number lines = .error cause ↔
    Line.FirstRefused (lines.filterMap Line.parse?) cause := by
  induction lines generalizing s number with
  | nil =>
    simp [addLines, Line.not_firstRefused_nil]
  | cons line lines ih =>
    rw [addLines]
    split
    · next hnone => rw [ih, List.filterMap_cons_none hnone]
    · next rule hrule =>
      rw [List.filterMap_cons_some hrule, Line.firstRefused_cons, ← Line.exists_refused_iff]
      simp only [← Line.condition_eq_error_iff]
      split
      · next e he => simp [he]
      · next c hc => simp [hc, ih]

/-- A text is refused for the first of its rules with a bad pattern, and for nothing else. -/
theorem parse_error_iff : parse text = .error cause ↔
    Line.FirstRefused ((Text.ruleLines text).filterMap Line.parse?) cause := by
  rw [parse, map_eq_error_iff, addLines_eq_error_iff]

theorem exists_parse_iff_forall_rules : (∃ s, parse text = .ok s) ↔
    ∀ rule ∈ (Text.ruleLines text).filterMap Line.parse?, ¬ rule.HasBadPattern := by
  rw [← not_iff_not, ← exists_eq_error_iff]
  simp only [parse_error_iff, Line.exists_firstRefused_iff, not_forall, not_not, exists_prop]

end RuleSet

end Enrich
