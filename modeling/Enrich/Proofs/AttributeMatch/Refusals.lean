import Enrich.Proofs.AttributeMatch.Settings
import Enrich.Proofs.Rule.BadPattern
import Enrich.Proofs.Template.Generated
import Enrich.Proofs.Text.Lines

/-!
# Settings that make no match

There are two things in settings that can be refused: a rule with a bad pattern and the entries of
the attributes to add. The first bad pattern is reported even if the entries are wrong too, and lines
that are no rules hide neither of them (`ofSettings_refused`).
-/

namespace Enrich.AttributeMatch

open Rule (Line)

variable {s : Settings} {e : BuildError}

/-- Why settings with some rules and some attributes to add make no match. -/
inductive Refusal (rules : List Line) (add : Option String) : BuildError → Prop
  | pattern {cause : PatternError} (hfirst : Line.FirstRefused rules cause) :
      Refusal rules add (.pattern cause)
  | properties {text : String} {cause : Properties.ParseError}
      (hrules : ∀ rule ∈ rules, ¬ rule.HasBadPattern) (hadd : add = some text)
      (hblank : Text.allBlank text = false) (hparse : Properties.parse text = .error cause) :
      Refusal rules add (.properties cause)

theorem ofSettings_error_iff : ofSettings s = .error e ↔
    Refusal ((Text.ruleLines s.rules).filterMap Line.parse?) s.add e := by
  rw [ofSettings_eq_error_iff, RuleSet.exists_parse_iff_forall_rules]
  simp only [RuleSet.parse_error_iff, Template.AttributeTemplates.parse_error_iff]
  constructor
  · rintro (⟨cause, hfirst, rfl⟩ | ⟨hrules, cause, ⟨text, hadd, hblank, hparse⟩, rfl⟩)
    · exact .pattern hfirst
    · exact .properties hrules hadd hblank hparse
  · intro h
    cases h with
    | pattern hfirst => exact .inl ⟨_, hfirst, rfl⟩
    | properties hrules hadd hblank hparse =>
      exact .inr ⟨hrules, _, ⟨_, hadd, hblank, hparse⟩, rfl⟩

/-- There is a reason if a pattern is bad or the entries are wrong. -/
theorem exists_refusal_iff {rules : List Line} {add : Option String} :
    (∃ e, Refusal rules add e) ↔ (∃ rule ∈ rules, rule.HasBadPattern) ∨
      ∃ text, add = some text ∧ Text.allBlank text = false ∧
        ∃ cause, Properties.parse text = .error cause := by
  constructor
  · rintro ⟨e, h⟩
    cases h with
    | pattern hfirst => exact .inl (Line.exists_firstRefused_iff.mp ⟨_, hfirst⟩)
    | properties hrules hadd hblank hparse => exact .inr ⟨_, hadd, hblank, _, hparse⟩
  · intro h
    by_cases hbad : ∃ rule ∈ rules, rule.HasBadPattern
    · obtain ⟨cause, hfirst⟩ := Line.exists_firstRefused_iff.mpr hbad
      exact ⟨_, .pattern hfirst⟩
    · obtain ⟨text, hadd, hblank, cause, hparse⟩ := h.resolve_left hbad
      have hrules : ∀ rule ∈ rules, ¬ rule.HasBadPattern := by
        intro rule hrule hrulebad
        exact hbad ⟨rule, hrule, hrulebad⟩
      exact ⟨_, .properties hrules hadd hblank hparse⟩

/-- **What settings are refused for.** Settings make no match if and only if a line of the rules is a
rule with a bad pattern or the entries of the attributes to add, being more than blanks, cannot be
read. The error is that of the first rule with a bad pattern, and that of the entries only if no
pattern is bad. So it is the same for all settings with the same attributes to add and the same rules
in the same order, whatever lines that are no rules stand between them and whatever the tags and the
flag are. -/
theorem ofSettings_refused (s : Settings) :
    ∃ lines, Text.AreRuleLines s.rules lines ∧
      ((∃ e, ofSettings s = .error e) ↔
        (∃ line ∈ lines, ∃ rule, Line.parse? line = some rule ∧ rule.HasBadPattern) ∨
          ∃ text, s.add = some text ∧ Text.allBlank text = false ∧
            ∃ cause, Properties.parse text = .error cause) ∧
      (∀ e, ofSettings s = .error e ↔ Refusal (lines.filterMap Line.parse?) s.add e) ∧
      ∀ s' lines', Text.AreRuleLines s'.rules lines' →
        lines'.filterMap Line.parse? = lines.filterMap Line.parse? → s'.add = s.add →
        ∀ e, ofSettings s' = .error e ↔ ofSettings s = .error e := by
  refine ⟨_, Text.areRuleLines_iff.mpr rfl, ?_, fun e => ofSettings_error_iff, ?_⟩
  · have hrules : (∃ rule ∈ (Text.ruleLines s.rules).filterMap Line.parse?, rule.HasBadPattern) ↔
        ∃ line ∈ Text.ruleLines s.rules, ∃ rule, Line.parse? line = some rule ∧
          rule.HasBadPattern := by
      constructor
      · rintro ⟨rule, hrule, hbad⟩
        obtain ⟨line, hline, hparse⟩ := List.mem_filterMap.mp hrule
        exact ⟨line, hline, rule, hparse, hbad⟩
      · rintro ⟨line, hline, rule, hparse, hbad⟩
        exact ⟨rule, List.mem_filterMap.mpr ⟨line, hline, hparse⟩, hbad⟩
    simp only [ofSettings_error_iff, exists_refusal_iff, hrules]
  · intro s' lines' hlines' hsame hadd e
    rw [ofSettings_error_iff, ofSettings_error_iff, ← hsame, hadd, Text.areRuleLines_iff.mp hlines']

/-- Settings with two bad patterns behind a line that is no rule, and an escape that is cut off. -/
def flawed : Settings :=
  ⟨"no rule\na=~(\n\nb!~[\nc==d", some "k=\\u00", none, false⟩

/-- Settings with the same flaws, and a line that is no rule at another place. -/
def flawedAlike : Settings :=
  ⟨"a=~(\nb!~[\nno rule\nc==d", flawed.add, some "$\x7b", true⟩

/-- The first bad pattern is reported, also if the lines that are no rules stand elsewhere. -/
theorem ofSettings_refused_flawed :
    ofSettings flawed = .error (.pattern .groupUnclosed) ∧
      ofSettings flawedAlike = .error (.pattern .groupUnclosed) := by
  obtain ⟨lines, hlines, -, herror, hsame⟩ := ofSettings_refused flawed
  obtain rfl := Text.areRuleLines_iff.mp hlines
  have hfirst : Line.FirstRefused ((Text.ruleLines flawed.rules).filterMap Line.parse?)
      .groupUnclosed := by
    refine ⟨[], ⟨"a", .regexMatch, "("⟩, [⟨"b", .regexNotMatch, "["⟩, ⟨"c", .equals, "d"⟩], ?_, ?_,
      .inl rfl, ?_⟩
    · decide
    · simp
    · exact Pattern.compile_eq_error_iff.mp rfl
  have hflawed : ofSettings flawed = .error (.pattern .groupUnclosed) :=
    (herror _).mpr (.pattern hfirst)
  have hlines' : Text.AreRuleLines flawedAlike.rules (Text.ruleLines flawedAlike.rules) :=
    Text.areRuleLines_iff.mpr rfl
  have hrules : (Text.ruleLines flawedAlike.rules).filterMap Line.parse? =
      (Text.ruleLines flawed.rules).filterMap Line.parse? := by
    decide
  exact ⟨hflawed, (hsame flawedAlike _ hlines' hrules rfl _).mpr hflawed⟩

end Enrich.AttributeMatch
