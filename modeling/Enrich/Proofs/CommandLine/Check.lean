import Enrich.CommandLine.Run
import Enrich.Proofs.AttributeMatch.Settings
import Enrich.Proofs.Rule.RuleSet
import Enrich.Proofs.Text.ReportLines

/-!
# What trying rules tells about lines that are no rules

Whoever tries rules is shown every line that is no rule, once and by increasing number. What is
shown is the line that was refused, except behind the last newline: there a carriage return at the
end of the text is shown as well, although it is no part of the line (`check_shows_malformed`,
`check_shows_return`).
-/

namespace Enrich.CommandLine

variable {files : Files} {trial : Trial} {text : String} {add : Option String} {s : RuleSet}
  {templates : Template.AttributeTemplates}

/-- Rules can be tried if they can be read, and so can the attributes to add. -/
theorem exists_check_eq_ok (htext : textOf files trial.rules = .ok text)
    (hrules : RuleSet.parse text = .ok s) (hadd : trial.add.mapM (textOf files) = .ok add)
    (htemplates : Template.AttributeTemplates.parse add = .ok templates) :
    ∃ printed, check files trial = .ok printed ∧
      printed.warnings = if s.malformedLines.isEmpty then ""
        else Report.unlines (Report.malformedLines text s.malformedLines) := by
  have hmatch : (AttributeMatch.ofSettings
      ⟨text, add, trial.tags, trial.substitute⟩).mapError Failure.rulesInvalid =
      .ok ⟨s, templates, Template.TagTemplates.parse trial.tags, trial.substitute⟩ :=
    mapError_eq_ok.mpr (AttributeMatch.ofSettings_eq_ok_iff.mpr ⟨hrules, htemplates, rfl, rfl⟩)
  exact ⟨_, bind_eq_ok.mpr ⟨text, htext, bind_eq_ok.mpr ⟨add, hadd, bind_eq_ok.mpr
    ⟨_, hmatch, rfl⟩⟩⟩, rfl⟩

/-- The line shown under the number of a line that is no rule. -/
theorem shownLine_of_mem {n : Nat} (hrules : RuleSet.parse text = .ok s)
    (hn : n ∈ s.malformedLines) :
    ∃ i line, n = i + 1 ∧ (Text.ruleLines text)[i]? = some line ∧ Rule.Line.parse? line = none ∧
      (Text.reportLines text)[i]? = some (Report.shownLine (Text.reportLines text).toArray n) ∧
      Report.shownLine (Text.reportLines text).toArray n =
        if n = text.toList.count '\n' + 1 ∧ text.toList.getLast? = some '\r' then line ++ "\r"
        else line := by
  obtain ⟨i, line, rfl, hline, hparse⟩ := RuleSet.malformedAt_of_mem hrules hn
  have hshown := Text.getElem?_reportLines hline
  have hread : Report.shownLine (Text.reportLines text).toArray (i + 1) =
      ((Text.reportLines text)[i]?).getD "" := by
    rw [Report.shownLine, Nat.add_sub_cancel, List.getElem?_toArray]
  refine ⟨i, line, rfl, hline, hparse, ?_, ?_⟩
  · rw [hread, hshown]
    rfl
  · rw [hread, hshown]
    rfl

/-- **Every line that is no rule is shown.** Whoever tries rules that can be read is shown the lines
that are no rules, by increasing number and each once. Every number is that of a line of the text,
and what is shown is that line, with a carriage return behind it if the line stands behind the last
newline and the text ends in a carriage return. -/
theorem check_shows_malformed (htext : textOf files trial.rules = .ok text)
    (hrules : RuleSet.parse text = .ok s) (hadd : trial.add.mapM (textOf files) = .ok add)
    (htemplates : Template.AttributeTemplates.parse add = .ok templates) :
    ∃ (printed : Printed) (lines : List String) (rows : List (Nat × String)),
      check files trial = .ok printed ∧ Text.AreRuleLines text lines ∧
      printed.warnings = (if rows = [] then "" else
        Report.unlines ("⚠️  Malformed rule lines, the rules can never match:" ::
          rows.map fun (number, shown) =>
            "  ✗ " ++ Report.aligned 3 number ++ ": " ++ shown)) ∧
      rows.map Prod.fst = s.malformedLines ∧ s.malformedLines.Pairwise (· < ·) ∧
      ∀ number shown, (number, shown) ∈ rows →
        ∃ i line, number = i + 1 ∧ lines[i]? = some line ∧ Rule.Line.parse? line = none ∧
          (Text.reportLines text)[i]? = some shown ∧
          shown = if number = text.toList.count '\n' + 1 ∧ text.toList.getLast? = some '\r'
            then line ++ "\r" else line := by
  obtain ⟨printed, hcheck, hwarnings⟩ := exists_check_eq_ok htext hrules hadd htemplates
  let rows := s.malformedLines.map fun number =>
    (number, Report.shownLine (Text.reportLines text).toArray number)
  refine ⟨printed, _, rows, hcheck, Text.areRuleLines_iff.mpr rfl, ?_, ?_,
    RuleSet.pairwise_malformedLines hrules, ?_⟩
  · rw [hwarnings]
    simp only [rows, List.isEmpty_iff, List.map_eq_nil_iff, List.map_map]
    rfl
  · simp only [rows, List.map_map, Function.comp_def, List.map_id']
  · intro number shown hrow
    obtain ⟨n, hn, hpair⟩ := List.mem_map.mp hrow
    cases hpair
    exact shownLine_of_mem hrules hn

/-- A refused line that has an end of its own and one that has none. -/
theorem check_shows_malformed_ends :
    ∃ (s : RuleSet) (printed : Printed) (rows : List (Nat × String)),
      RuleSet.parse "a\r\nb~~\n=" = .ok s ∧
      check (fun _ => .nothing) { rules := "a\r\nb~~\n=" } = .ok printed ∧
      rows.map Prod.fst = [1, 3] ∧ ∀ number shown, (number, shown) ∈ rows →
        ∃ i line, number = i + 1 ∧ (Text.ruleLines "a\r\nb~~\n=")[i]? = some line ∧
          shown = line := by
  obtain ⟨s, hs, hmalformed⟩ : ∃ s, RuleSet.parse "a\r\nb~~\n=" = .ok s ∧
      s.malformedLines = [1, 3] := ⟨_, rfl, rfl⟩
  obtain ⟨printed, lines, rows, hcheck, hlines, -, hnumbers, -, hrows⟩ :=
    @check_shows_malformed (fun _ => .nothing) { rules := "a\r\nb~~\n=" } _ none s ⟨∅⟩ rfl hs
      rfl rfl
  refine ⟨s, printed, rows, hs, hcheck, hnumbers.trans hmalformed, fun number shown hrow => ?_⟩
  obtain ⟨i, line, hnumber, hline, -, -, hshown⟩ := hrows number shown hrow
  refine ⟨i, line, hnumber, Text.areRuleLines_iff.mp hlines ▸ hline, ?_⟩
  rw [hshown, if_neg fun hreturn => absurd hreturn.2 (by decide)]

/-- A carriage return at the end of the text is shown behind a line that was refused without it. -/
theorem check_shows_return :
    ∃ s, RuleSet.parse "a\r" = .ok s ∧ s.malformedLines = [1] ∧ Text.ruleLines "a\r" = ["a"] ∧
      check (fun _ => .nothing) { rules := "a\r" } = .ok ⟨"no match\n",
        "⚠️  Malformed rule lines, the rules can never match:\n  ✗   1: a\r\n"⟩ :=
  ⟨_, rfl, rfl, rfl, rfl⟩

end Enrich.CommandLine
