import Enrich.AttributeMatch.Basic
import Enrich.Proofs.Properties.NaturalLines
import Enrich.Proofs.Text.Lines

/-!
# Line ends in settings

The rules of settings and the attributes to add are texts of several lines. A carriage return in
front of a newline makes no difference in either of them, and in the attributes to add a carriage
return may stand for a newline (`ofSettings_lineEnds`). `AddsReturns` says how such a text comes from
the one with newlines only, and each way of cutting a text is shown to give the same lines for both.
-/

namespace Enrich

namespace Text

/-- Whether a text is another one with carriage returns put in front of some of its newlines. -/
inductive AddsReturns : List Char → List Char → Prop
  | nil : AddsReturns [] []
  | keep {text changed} (c : Char) (h : AddsReturns text changed) :
      AddsReturns (c :: text) (c :: changed)
  | add {text changed} (h : AddsReturns text changed) :
      AddsReturns ('\n' :: text) ('\r' :: '\n' :: changed)

/-- A text with a carriage return for each newline. -/
def newlinesToReturns (text : List Char) : List Char :=
  text.map fun c => if c = '\n' then '\r' else c

variable {text changed : List Char}

theorem AddsReturns.refl (text : List Char) : AddsReturns text text := by
  induction text with
  | nil => exact .nil
  | cons c text ih => exact .keep c ih

/-! ## The lines of rules -/

theorem map_dropReturn_modifyHead {c : Char} (hc : c ≠ '\r') (pieces : List (List Char)) :
    (pieces.modifyHead (c :: ·)).map dropReturn = (pieces.map dropReturn).modifyHead (c :: ·) := by
  cases pieces with
  | nil => rfl
  | cons piece pieces =>
    have hlast : [c].getLast? ≠ some '\r' := by
      simpa using hc
    have hpiece : dropReturn (c :: piece) = c :: dropReturn piece := dropReturn_append hlast piece
    simp only [List.modifyHead_cons, List.map_cons, hpiece]

/-- A carriage return in front of a newline is dropped with it. -/
theorem AddsReturns.map_dropReturn_splitOn (h : AddsReturns text changed) (hno : '\r' ∉ text) :
    (changed.splitOn '\n').map dropReturn = text.splitOn '\n' := by
  induction h with
  | nil => rfl
  | keep c h ih =>
    obtain ⟨hc, htext⟩ := List.ne_and_not_mem_of_not_mem_cons hno
    rw [List.splitOn_cons_eq_if_modifyHead, List.splitOn_cons_eq_if_modifyHead, ← ih htext]
    split
    · rfl
    · exact map_dropReturn_modifyHead (Ne.symm hc) _
  | add h ih =>
    obtain ⟨-, htext⟩ := List.ne_and_not_mem_of_not_mem_cons hno
    simp only [List.splitOn_cons_eq_if_modifyHead]
    rw [← ih htext]
    rfl

theorem AddsReturns.ruleLines_eq {text changed : String}
    (h : AddsReturns text.toList changed.toList) (hno : '\r' ∉ text.toList) :
    ruleLines changed = ruleLines text := by
  unfold ruleLines
  rw [h.map_dropReturn_splitOn hno, (AddsReturns.refl text.toList).map_dropReturn_splitOn hno]

/-! ## The lines of entries -/

theorem AddsReturns.unifyLineEnds_eq (h : AddsReturns text changed) (hno : '\r' ∉ text) :
    unifyLineEnds changed = text := by
  induction h with
  | nil => rfl
  | keep c h ih =>
    obtain ⟨hc, htext⟩ := List.ne_and_not_mem_of_not_mem_cons hno
    rw [Properties.unifyLineEnds_cons (Ne.symm hc), ih htext]
  | add h ih =>
    obtain ⟨-, htext⟩ := List.ne_and_not_mem_of_not_mem_cons hno
    rw [unifyLineEnds, ih htext]

theorem newline_notMem_newlinesToReturns (text : List Char) : '\n' ∉ newlinesToReturns text := by
  intro hmem
  obtain ⟨c, -, hc⟩ := List.mem_map.mp hmem
  split at hc
  · cases hc
  · next hne => exact hne hc

theorem unifyLineEnds_newlinesToReturns (hno : '\r' ∉ text) :
    unifyLineEnds (newlinesToReturns text) = text := by
  induction text with
  | nil => rfl
  | cons c text ih =>
    obtain ⟨hc, htext⟩ := List.ne_and_not_mem_of_not_mem_cons hno
    by_cases hnewline : c = '\n'
    · subst hnewline
      have hnext : (newlinesToReturns text).head? ≠ some '\n' := by
        intro hhead
        exact newline_notMem_newlinesToReturns text (List.mem_of_mem_head? hhead)
      exact (Properties.unifyLineEnds_return hnext).trans (congrArg _ (ih htext))
    · have hkept : newlinesToReturns (c :: text) = c :: newlinesToReturns text := by
        simp [newlinesToReturns, hnewline]
      rw [hkept, Properties.unifyLineEnds_cons (Ne.symm hc), ih htext]

/-! ## Blank texts -/

theorem AddsReturns.all_isBlank (h : AddsReturns text changed) :
    changed.all isBlank = text.all isBlank := by
  induction h with
  | nil => rfl
  | keep c h ih => rw [List.all_cons, List.all_cons, ih]
  | add h ih =>
    have hreturn : isBlank '\r' = true := by decide
    rw [List.all_cons, List.all_cons, List.all_cons, ih, hreturn, Bool.true_and]

theorem all_isBlank_newlinesToReturns (text : List Char) :
    (newlinesToReturns text).all isBlank = text.all isBlank := by
  have hblank : ∀ c, isBlank (if c = '\n' then '\r' else c) = isBlank c := by
    intro c
    split
    · next hc =>
      subst hc
      decide
    · rfl
  rw [newlinesToReturns, List.all_map]
  exact congrArg (text.all ·) (funext hblank)

end Text

namespace AttributeMatch

open Text (AddsReturns)

/-- Whether a text of entries differs from another one in its line ends only: some newlines have a
carriage return in front of them, or all are carriage returns. -/
def SameEntryLines (text changed : String) : Prop :=
  AddsReturns text.toList changed.toList ∨
    changed.toList = Text.newlinesToReturns text.toList

/-- Whether settings differ from other ones in the line ends of their texts only. -/
structure Settings.SameLines (s s' : Settings) : Prop where
  rules : AddsReturns s.rules.toList s'.rules.toList
  add : Option.Rel SameEntryLines s.add s'.add
  addTags : s'.addTags = s.addTags
  substitute : s'.substitute = s.substitute

variable {s s' : Settings} {text changed : String}

theorem SameEntryLines.allBlank_eq (h : SameEntryLines text changed) :
    Text.allBlank changed = Text.allBlank text := by
  unfold Text.allBlank
  rcases h with h | h
  · exact h.all_isBlank
  · rw [h, Text.all_isBlank_newlinesToReturns]

theorem SameEntryLines.parse_eq (h : SameEntryLines text changed) (hno : '\r' ∉ text.toList) :
    Properties.parse changed = Properties.parse text := by
  have hunified : Text.unifyLineEnds changed.toList = text.toList := by
    rcases h with h | h
    · exact h.unifyLineEnds_eq hno
    · rw [h, Text.unifyLineEnds_newlinesToReturns hno]
  rw [Properties.parse, Properties.parse, Properties.logicalLines, Properties.logicalLines,
    Properties.naturalLines, Properties.naturalLines, hunified,
    Properties.unifyLineEnds_of_notMem hno]

theorem parse_templates_eq {add add' : Option String} (h : Option.Rel SameEntryLines add add')
    (hno : ∀ text ∈ add, '\r' ∉ text.toList) :
    Template.AttributeTemplates.parse add' = Template.AttributeTemplates.parse add := by
  cases h with
  | none => rfl
  | some h =>
    unfold Template.AttributeTemplates.parse
    simp only [h.allBlank_eq, h.parse_eq (hno _ rfl)]

/-- **Line ends do not matter.** Settings whose rules and attributes to add have no carriage return
make the same match, or fail with the same error, when carriage returns are put in front of any of
the newlines in these texts, and also when all the newlines in the attributes to add become carriage
returns. -/
theorem ofSettings_lineEnds (h : s.SameLines s') (hrules : '\r' ∉ s.rules.toList)
    (hadd : ∀ text ∈ s.add, '\r' ∉ text.toList) : ofSettings s' = ofSettings s := by
  unfold ofSettings RuleSet.parse
  rw [h.rules.ruleLines_eq hrules, parse_templates_eq h.add hadd, h.addTags, h.substitute]

/-- Settings with newlines only. -/
def newlineEnds : Settings :=
  ⟨"a==b\nno rule\n", some "k=1\\\n 2\nv=3", none, true⟩

/-- The same settings with line ends of other kinds. -/
def mixedEnds : Settings :=
  ⟨"a==b\r\nno rule\n", some "k=1\\\r 2\rv=3", none, true⟩

/-- A continued line ends in a backslash, whatever the line end behind it is. -/
theorem ofSettings_lineEnds_mixed : ∃ m, ofSettings newlineEnds = .ok m ∧
    ofSettings mixedEnds = .ok m ∧ m.rules.malformedLines = [2] ∧
      m.attributes.entries.entries = [("k", "12"), ("v", "3")] := by
  have hrules : AddsReturns newlineEnds.rules.toList mixedEnds.rules.toList := by
    have hfront : AddsReturns "\nno rule\n".toList "\r\nno rule\n".toList := .add (.refl _)
    exact .keep 'a' (.keep '=' (.keep '=' (.keep 'b' hfront)))
  have hadd : Option.Rel SameEntryLines newlineEnds.add mixedEnds.add :=
    .some (.inr (by decide))
  have hsame : newlineEnds.SameLines mixedEnds := ⟨hrules, hadd, rfl, rfl⟩
  have hnone : ∀ text ∈ newlineEnds.add, '\r' ∉ text.toList := by
    decide
  have hequal := ofSettings_lineEnds hsame (by decide) hnone
  have hchecked : ((ofSettings newlineEnds).toOption.any fun m =>
      m.rules.malformedLines == [2] &&
        m.attributes.entries.entries == [("k", "12"), ("v", "3")]) = true := by
    decide +kernel
  cases hm : ofSettings newlineEnds with
  | error cause =>
    rw [hm] at hchecked
    cases hchecked
  | ok m =>
    rw [hm] at hchecked
    obtain ⟨hmalformed, hentries⟩ := Bool.and_eq_true_iff.mp hchecked
    exact ⟨m, rfl, hequal.trans hm, eq_of_beq hmalformed, eq_of_beq hentries⟩

end AttributeMatch

end Enrich
