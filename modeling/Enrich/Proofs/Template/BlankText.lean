import Enrich.Proofs.Ordered.Map
import Enrich.Proofs.Properties.Errors
import Enrich.Proofs.Properties.Runs
import Enrich.Template.Generator

/-!
# Texts of blanks

A text of blanks has no attributes to add, and is not read as entries at all. The reader of entries
knows fewer blanks: to it, any other blank is the start of a key. So the two agree on a text of
blanks exactly if the reader knows all of them (`parse_some_agrees`).
-/

namespace Enrich.Properties

/-- Whether a text is all blank but has a blank that entries know as none: neither a space, a tab or
a form feed nor a line end. -/
structure HasForeignBlank (text : List Char) : Prop where
  blank : ∀ c ∈ text, Text.isBlank c = true
  foreign : ∃ c ∈ text, isSpace c = false ∧ c ≠ '\n' ∧ c ≠ '\r'

variable {text line raw : List Char} {lines : List (List Char)} {number : Nat} {c : Char}

/-! ## Lines of blanks -/

theorem assemble_of_skipped (h : ∀ line ∈ lines, isSkipped (trimStart line) = true) (number : Nat) :
    assemble none number lines = [] := by
  induction lines generalizing number with
  | nil => rfl
  | cons line lines ih =>
    obtain ⟨hline, hlines⟩ := List.forall_mem_cons.mp h
    rw [assemble_skipped hline, ih hlines]

/-- A line that is not passed over makes a logical line, if no line goes on. -/
theorem assemble_ne_nil (hclosed : ∀ line ∈ lines, ¬ EndsOdd line)
    (hopens : ∃ line ∈ lines, isSkipped (trimStart line) = false) (number : Nat) :
    assemble none number lines ≠ [] := by
  induction lines generalizing number with
  | nil =>
    obtain ⟨_, hmem, -⟩ := hopens
    cases hmem
  | cons line lines ih =>
    obtain ⟨hline, hlines⟩ := List.forall_mem_cons.mp hclosed
    cases hskipped : isSkipped (trimStart line) with
    | true =>
      rw [assemble_skipped hskipped]
      refine ih hlines ?_ (number + 1)
      simpa [hskipped] using hopens
    | false =>
      have htrim : trimStart line ≠ [] := by
        rintro hnil
        rw [hnil] at hskipped
        cases hskipped
      have hends := @assemble_ends line lines number number [] not_endsOdd_nil hline
      rw [List.reverse_nil] at hends
      rw [assemble_open hskipped, hends, List.nil_append, addition, if_neg hline]
      simp [entryLine, htrim]

/-! ## Texts without escapes -/

theorem unescape_of_notMem (h : '\\' ∉ raw) : unescape raw = .ok raw := by
  induction raw with
  | nil => rfl
  | cons c raw ih =>
    obtain ⟨hc, hraw⟩ := List.ne_and_not_mem_of_not_mem_cons h
    rw [unescape_plain (Ne.symm hc), ih hraw]
    rfl

theorem exists_readEntry_of_notMem (h : '\\' ∉ line) : ∃ entry, readEntry line = .ok entry := by
  obtain ⟨key, gap, value, tail, hparts⟩ := exists_isEntry line
  have hkey : '\\' ∉ key := fun hmem => h (by simp [hparts.line_eq, hmem])
  have hvalue : '\\' ∉ value := fun hmem => h (by simp [hparts.line_eq, hmem])
  rw [readEntry_eq hparts, unescape_of_notMem hkey, unescape_of_notMem hvalue]
  exact ⟨_, rfl⟩

/-- Each logical line without an escape is an entry. -/
theorem exists_readEntries_of_notMem {lines : List (Nat × List Char)}
    (h : ∀ numbered ∈ lines, '\\' ∉ numbered.2) :
    ∃ es, readEntries lines = .ok es ∧ es.length = lines.length := by
  induction lines with
  | nil => exact ⟨[], rfl, rfl⟩
  | cons numbered lines ih =>
    obtain ⟨hline, hlines⟩ := List.forall_mem_cons.mp h
    obtain ⟨entry, hentry⟩ := exists_readEntry_of_notMem hline
    obtain ⟨es, hes, hlength⟩ := ih hlines
    refine ⟨entry :: es, ?_, by rw [List.length_cons, List.length_cons, hlength]⟩
    rw [readEntries, hentry, hes]
    rfl

/-! ## Texts of blanks -/

/-- A line of blanks one of which is foreign is the start of an entry. -/
theorem isSkipped_of_foreign (hblank : ∀ c ∈ line, Text.isBlank c = true)
    (hforeign : ∃ c ∈ line, isSpace c = false) : isSkipped (trimStart line) = false := by
  cases htrim : trimStart line with
  | nil =>
    obtain ⟨c, hc, hspace⟩ := hforeign
    rw [List.dropWhile_eq_nil_iff.mp htrim c hc] at hspace
    cases hspace
  | cons c rest =>
    have hmem : c ∈ line := (List.dropWhile_suffix isSpace).subset (by rw [← trimStart, htrim]; simp)
    have hc := hblank c hmem
    rw [isSkipped, Bool.or_eq_false_iff, beq_eq_false_iff_ne, beq_eq_false_iff_ne]
    constructor
    · rintro rfl
      cases hc
    · rintro rfl
      cases hc

theorem parse_of_own {text : String}
    (h : ∀ c ∈ text.toList, isSpace c = true ∨ c = '\n' ∨ c = '\r') : parse text = .ok [] := by
  have hlines : AreNaturalLines text.toList (naturalLines text.toList) := areNaturalLines_iff.mpr rfl
  have hskipped : ∀ line ∈ naturalLines text.toList, isSkipped (trimStart line) = true := by
    intro line hline
    refine isPassedOver_iff.mp (.blank fun c hc => ?_)
    obtain ⟨hmem, hnewline, hreturn⟩ := hlines.mem_iff.mp ⟨line, hline, hc⟩
    exact (h c hmem).resolve_right fun hend => hend.elim hnewline hreturn
  rw [parse, logicalLines, assemble_of_skipped hskipped]
  rfl

theorem HasForeignBlank.exists_parse {text : String} (h : HasForeignBlank text.toList) :
    ∃ entry es, parse text = .ok (entry :: es) := by
  have hlines : AreNaturalLines text.toList (naturalLines text.toList) := areNaturalLines_iff.mpr rfl
  have hblank : ∀ line ∈ naturalLines text.toList, ∀ c ∈ line, Text.isBlank c = true :=
    fun line hline c hc => h.blank c (hlines.mem_iff.mp ⟨line, hline, hc⟩).1
  have hbackslash : ∀ line ∈ naturalLines text.toList, '\\' ∉ line := by
    intro line hline hmem
    have hmem := hblank line hline '\\' hmem
    cases hmem
  have hclosed : ∀ line ∈ naturalLines text.toList, ¬ EndsOdd line := by
    rintro line hline ⟨front, n, rfl, -⟩
    exact hbackslash _ hline (by simp [List.replicate_succ])
  have hopens : ∃ line ∈ naturalLines text.toList, isSkipped (trimStart line) = false := by
    obtain ⟨c, hc, hspace, hend⟩ := h.foreign
    obtain ⟨line, hline, hmem⟩ := hlines.mem_iff.mpr ⟨hc, hend⟩
    exact ⟨line, hline, isSkipped_of_foreign (hblank line hline) ⟨c, hmem, hspace⟩⟩
  have hlogical : ∀ numbered ∈ logicalLines text.toList, '\\' ∉ numbered.2 := by
    intro numbered hnumbered hmem
    have hruns : AreLogicalLines 1 (naturalLines text.toList) (logicalLines text.toList) :=
      areLogicalLines_iff.mpr rfl
    obtain ⟨line, hline, hmem⟩ :=
      List.mem_flatten.mp ((hruns.sublist numbered hnumbered).subset hmem)
    exact hbackslash line hline hmem
  obtain ⟨es, hes, hlength⟩ := exists_readEntries_of_notMem hlogical
  have hne : es ≠ [] := by
    intro hnil
    rw [hnil, List.length_nil, eq_comm, List.length_eq_zero_iff] at hlength
    exact assemble_ne_nil hclosed hopens 1 hlength
  obtain ⟨entry, others, rfl⟩ := List.exists_cons_of_ne_nil hne
  exact ⟨entry, others, hes⟩

end Enrich.Properties

namespace Enrich.Template

open Properties (HasForeignBlank isSpace)

theorem ofList_cons_ne_empty (entry : String × String) (es : List (String × String)) :
    StringMap.ofList (entry :: es) ≠ ∅ := by
  intro hempty
  have hmem : entry.1 ∈ (StringMap.ofList (entry :: es)).keys :=
    StringMap.mem_keys_ofList.mpr (by simp)
  rw [hempty] at hmem
  cases hmem

/-- **Blank texts are no entries.** The attributes to add that a text gives are the entries that are
read from it, the last one under each key, or the error of reading them, if and only if the text is
not all blank with a blank that entries know as none. Such a text would be read as one entry at
least, and gives no attributes. -/
theorem AttributeTemplates.parse_some_agrees (text : String) :
    ((AttributeTemplates.parse (some text) =
        (Properties.parse text).map fun es => ⟨StringMap.ofList es⟩) ↔
      ¬ HasForeignBlank text.toList) ∧
    (HasForeignBlank text.toList → (∃ entry es, Properties.parse text = .ok (entry :: es)) ∧
      AttributeTemplates.parse (some text) = .ok ⟨∅⟩) := by
  have hshortcut : Text.allBlank text = true → AttributeTemplates.parse (some text) = .ok ⟨∅⟩ :=
    fun hblank => if_pos hblank
  have hall : Text.allBlank text = true ↔ ∀ c ∈ text.toList, Text.isBlank c = true :=
    List.all_eq_true
  refine ⟨⟨?_, fun hnone => ?_⟩, fun h => ⟨h.exists_parse, hshortcut (hall.mpr h.blank)⟩⟩
  · intro hagrees h
    obtain ⟨entry, es, hparse⟩ := h.exists_parse
    rw [hshortcut (hall.mpr h.blank), hparse] at hagrees
    have hentries := congrArg AttributeTemplates.entries (Except.ok.inj hagrees)
    exact ofList_cons_ne_empty entry es hentries.symm
  · by_cases hblank : Text.allBlank text = true
    · have hown : ∀ c ∈ text.toList, isSpace c = true ∨ c = '\n' ∨ c = '\r' := by
        intro c hc
        by_contra hforeign
        refine hnone ⟨hall.mp hblank, c, hc, ?_⟩
        simpa using hforeign
      rw [hshortcut hblank, Properties.parse_of_own hown]
      rfl
    · rw [AttributeTemplates.parse, if_neg hblank]

/-- A vertical tab is a blank, but entries know it as none. -/
example : Properties.parse " \x0b" = .ok [("\x0b", "")] ∧
    AttributeTemplates.parse (some " \x0b") = .ok ⟨∅⟩ := by
  decide +kernel

end Enrich.Template
