import Enrich.Text.Lines
import Mathlib.Data.List.DropRight
import Mathlib.Data.List.Forall2

/-!
# The lines of a rule text

`AreRuleLines` says what the lines of a rule text are without cutting it up: put together with the
carriage returns and empty lines that do not count, they make up the text. Every text has exactly
one such list of lines, the one that `ruleLines` gives (`areRuleLines_iff`).
-/

namespace Enrich.Text

/-! ## Pieces between newlines -/

theorem notMem_of_mem_splitOn {c : Char} {text piece : List Char} (h : piece ∈ text.splitOn c) :
    c ∉ piece := by
  induction text generalizing piece with
  | nil =>
    rw [List.splitOn_nil, List.mem_singleton] at h
    rw [h]
    exact List.not_mem_nil
  | cons a text ih =>
    rw [List.splitOn_cons_eq_if_modifyHead] at h
    split at h
    · rcases List.mem_cons.mp h with rfl | h
      · exact List.not_mem_nil
      · exact ih h
    · next hne =>
      cases hpieces : text.splitOn c with
      | nil => exact absurd hpieces (List.splitOn_ne_nil c text)
      | cons first others =>
        rw [hpieces, List.modifyHead_cons] at h
        rcases List.mem_cons.mp h with rfl | h
        · have hfirst : c ∉ first := ih (hpieces ▸ List.mem_cons_self)
          intro hc
          rcases List.mem_cons.mp hc with heq | hc
          · exact hne (beq_iff_eq.mpr heq.symm)
          · exact hfirst hc
        · exact ih (hpieces ▸ List.mem_cons_of_mem _ h)

theorem notMem_intercalate {c : Char} {separator : List Char} {pieces : List (List Char)}
    (hseparator : c ∉ separator) (hpieces : ∀ piece ∈ pieces, c ∉ piece) :
    c ∉ separator.intercalate pieces := by
  induction pieces with
  | nil => exact List.not_mem_nil
  | cons piece pieces ih =>
    have hpiece := hpieces piece List.mem_cons_self
    have hothers := ih fun other hother => hpieces other (List.mem_cons_of_mem _ hother)
    cases pieces with
    | nil => simpa [List.intercalate] using hpiece
    | cons next pieces =>
      simp only [List.intercalate, List.intersperse_cons_cons, List.flatten_cons, List.mem_append,
        not_or]
      exact ⟨hpiece, hseparator, hothers⟩

/-- The pieces between the separators are the only way to write a text as pieces without separators
with one separator between any two. -/
theorem eq_splitOn_iff {c : Char} {text : List Char} {pieces : List (List Char)} :
    pieces = text.splitOn c ↔
      pieces ≠ [] ∧ (∀ piece ∈ pieces, c ∉ piece) ∧ text = [c].intercalate pieces := by
  constructor
  · rintro rfl
    exact ⟨List.splitOn_ne_nil c text, fun _ => notMem_of_mem_splitOn,
      (List.intercalate_splitOn c).symm⟩
  · rintro ⟨hne, hpieces, rfl⟩
    exact (List.splitOn_intercalate c hpieces hne).symm

/-! ## Carriage returns and empty lines -/

/-- Whether a line is a piece of text without one carriage return at its end. -/
def WithoutReturn (line piece : List Char) : Prop :=
  piece = line ++ ['\r'] ∨ piece = line ∧ piece.getLast? ≠ some '\r'

theorem withoutReturn_iff {line piece : List Char} :
    WithoutReturn line piece ↔ line = dropReturn piece := by
  unfold dropReturn
  constructor
  · rintro (rfl | ⟨rfl, hlast⟩)
    · rw [if_pos List.getLast?_concat, List.dropLast_concat]
    · rw [if_neg hlast]
  · intro h
    split at h
    · next hlast =>
      obtain ⟨front, rfl⟩ := List.getLast?_eq_some_iff.mp hlast
      rw [List.dropLast_concat] at h
      exact .inl (by rw [h])
    · next hlast => exact .inr ⟨h.symm, hlast⟩

theorem dropReturn_append {front : List Char} (hfront : front.getLast? ≠ some '\r')
    (line : List Char) : dropReturn (front ++ line) = front ++ dropReturn line := by
  symm
  rw [← withoutReturn_iff]
  rcases withoutReturn_iff.mpr (rfl : dropReturn line = _) with hline | ⟨hline, hlast⟩
  · left
    rw [List.append_assoc, ← hline]
  · right
    refine ⟨by rw [← hline], ?_⟩
    rcases List.eq_nil_or_concat line with rfl | ⟨init, c, rfl⟩
    · rwa [List.append_nil]
    · rw [List.concat_eq_append] at hlast ⊢
      rwa [← List.append_assoc, List.getLast?_concat, ← List.getLast?_concat (l := init)]

theorem mem_of_mem_dropReturn {c : Char} {line : List Char} (h : c ∈ dropReturn line) :
    c ∈ line := by
  unfold dropReturn at h
  split at h
  · exact (List.dropLast_sublist line).subset h
  · exact h

theorem forall₂_withoutReturn_iff {lines pieces : List (List Char)} :
    List.Forall₂ WithoutReturn lines pieces ↔ lines = pieces.map dropReturn := by
  have hrel : WithoutReturn = fun line piece => line = dropReturn piece :=
    funext₂ fun _ _ => propext withoutReturn_iff
  rw [hrel, ← List.forall₂_map_right_iff (R := (· = ·)), List.forall₂_eq_eq_eq]

theorem rdropWhile_append_replicate {front : List (List Char)} (hlast : front.getLast? ≠ some [])
    (n : Nat) : (front ++ List.replicate n []).rdropWhile (·.isEmpty) = front := by
  induction n with
  | zero =>
    rw [List.replicate_zero, List.append_nil, List.rdropWhile_eq_self_iff]
    intro hne hempty
    rw [List.isEmpty_iff] at hempty
    exact hlast (by rw [List.getLast?_eq_some_getLast hne, hempty])
  | succ n ih =>
    rw [List.replicate_succ', ← List.append_assoc, List.rdropWhile_concat_pos _ _ _ rfl, ih]

theorem eq_rdropWhile_iff {front lines : List (List Char)} :
    front = lines.rdropWhile (·.isEmpty) ↔
      (∃ n, front ++ List.replicate n [] = lines) ∧ front.getLast? ≠ some [] := by
  constructor
  · rintro rfl
    constructor
    · refine ⟨(lines.rtakeWhile (·.isEmpty)).length, ?_⟩
      rw [← List.eq_replicate_iff.mpr ⟨rfl, fun line hline => ?_⟩,
        List.rdropWhile_append_rtakeWhile]
      exact List.isEmpty_iff.mp (List.mem_rtakeWhile_imp hline)
    · intro hlast
      have hne : lines.rdropWhile (·.isEmpty) ≠ [] := by
        intro hnil
        rw [hnil] at hlast
        cases hlast
      rw [List.getLast?_eq_some_getLast hne, Option.some.injEq] at hlast
      exact List.rdropWhile_last_not _ _ hne (List.isEmpty_iff.mpr hlast)
  · rintro ⟨⟨n, rfl⟩, hlast⟩
    exact (rdropWhile_append_replicate hlast n).symm

/-! ## Rule lines -/

/-- Whether some lines are those of a rule text: the pieces between its newlines, each without one
carriage return at its end, without the empty lines at the end. -/
def AreRuleLines (text : String) (lines : List String) : Prop :=
  ∃ (pieces : List (List Char)) (empties : Nat), pieces ≠ [] ∧ (∀ piece ∈ pieces, '\n' ∉ piece) ∧
    text.toList = ['\n'].intercalate pieces ∧
    List.Forall₂ WithoutReturn (lines.map String.toList ++ List.replicate empties []) pieces ∧
    lines.getLast? ≠ some ""

theorem eq_map_ofList_iff {lines : List String} {front : List (List Char)} :
    lines = front.map String.ofList ↔ lines.map String.toList = front := by
  constructor
  · rintro rfl
    simp [Function.comp_def]
  · rintro rfl
    simp [Function.comp_def]

theorem areRuleLines_iff {text : String} {lines : List String} :
    AreRuleLines text lines ↔ lines = ruleLines text := by
  have hlast : lines.getLast? ≠ some "" ↔ (lines.map String.toList).getLast? ≠ some [] := by
    rw [List.getLast?_map]
    cases lines.getLast? <;> simp
  have hlines : lines = ruleLines text ↔
      lines.map String.toList =
        ((text.toList.splitOn '\n').map dropReturn).rdropWhile (·.isEmpty) :=
    eq_map_ofList_iff
  rw [hlines, eq_rdropWhile_iff, ← hlast]
  constructor
  · rintro ⟨pieces, empties, hne, hpieces, htext, hall, hlines⟩
    rw [eq_splitOn_iff.mpr ⟨hne, hpieces, htext⟩] at hall
    exact ⟨⟨empties, forall₂_withoutReturn_iff.mp hall⟩, hlines⟩
  · rintro ⟨⟨empties, hall⟩, hlines⟩
    obtain ⟨hne, hpieces, htext⟩ := eq_splitOn_iff.mp (rfl : _ = text.toList.splitOn '\n')
    exact ⟨_, empties, hne, hpieces, htext, forall₂_withoutReturn_iff.mpr hall, hlines⟩

/-! ## Texts put together -/

/-- The lines of a rule text with the empty ones at its end. -/
def allLines (text : String) : List String :=
  ((text.toList.splitOn '\n').map dropReturn).map String.ofList

/-- The lines of a rule text are all its lines but the empty ones at the end. -/
theorem eq_ruleLines_iff {text : String} {lines : List String} : lines = ruleLines text ↔
    (∃ n, lines ++ List.replicate n "" = allLines text) ∧ lines.getLast? ≠ some "" := by
  have hfront : lines = ruleLines text ↔ lines.map String.toList =
      ((text.toList.splitOn '\n').map dropReturn).rdropWhile (·.isEmpty) := eq_map_ofList_iff
  have hlast : (lines.map String.toList).getLast? ≠ some [] ↔ lines.getLast? ≠ some "" := by
    rw [List.getLast?_map]
    cases lines.getLast? <;> simp
  rw [hfront, eq_rdropWhile_iff, hlast]
  refine and_congr_left fun _ => exists_congr fun n => ?_
  rw [allLines, eq_map_ofList_iff, List.map_append, List.map_replicate]
  rfl

theorem mem_allLines_of_mem_ruleLines {text line : String} (h : line ∈ ruleLines text) :
    line ∈ allLines text := by
  obtain ⟨⟨n, hlines⟩, -⟩ := eq_ruleLines_iff.mp (rfl : ruleLines text = _)
  rw [← hlines]
  exact List.mem_append_left _ h

theorem mem_ruleLines_of_ne_empty {text line : String} (h : line ∈ allLines text)
    (hne : line ≠ "") : line ∈ ruleLines text := by
  obtain ⟨⟨n, hlines⟩, -⟩ := eq_ruleLines_iff.mp (rfl : ruleLines text = _)
  rw [← hlines] at h
  rcases List.mem_append.mp h with h | h
  · exact h
  · exact absurd (List.eq_of_mem_replicate h) hne

theorem ruleLines_of_getLast? {text : String} (h : (allLines text).getLast? ≠ some "") :
    ruleLines text = allLines text :=
  (eq_ruleLines_iff.mpr ⟨⟨0, List.append_nil _⟩, h⟩).symm

theorem allLines_append (front back : String) :
    allLines (front ++ "\n" ++ back) = allLines front ++ allLines back := by
  have hchars : (front ++ "\n" ++ back).toList = front.toList ++ '\n' :: back.toList := by
    simp
  unfold allLines
  rw [hchars, List.splitOn_append_cons_self, List.map_append, List.map_append]

/-- Behind a text whose last lines are empty these count, unless no line follows. -/
theorem ruleLines_append (front back : String) : ruleLines (front ++ "\n" ++ back) =
    if ruleLines back = [] then ruleLines front else allLines front ++ ruleLines back := by
  obtain ⟨⟨n, hfront⟩, hlast⟩ := eq_ruleLines_iff.mp (rfl : ruleLines front = _)
  obtain ⟨⟨m, hback⟩, hlast'⟩ := eq_ruleLines_iff.mp (rfl : ruleLines back = _)
  symm
  rw [eq_ruleLines_iff, allLines_append, ← hback]
  split
  · next hnil =>
    refine ⟨⟨n + m, ?_⟩, hlast⟩
    rw [hnil, ← hfront, List.replicate_add, List.nil_append, List.append_assoc]
  · next hne =>
    refine ⟨⟨m, List.append_assoc _ _ _⟩, ?_⟩
    rwa [List.getLast?_append_of_ne_nil _ hne]

theorem mem_ruleLines_append {front back line : String}
    (h : line ∈ ruleLines front ∨ line ∈ ruleLines back) :
    line ∈ ruleLines (front ++ "\n" ++ back) := by
  rw [ruleLines_append]
  split
  · next hnil =>
    rw [hnil] at h
    exact h.resolve_right List.not_mem_nil
  · exact List.mem_append.mpr (h.imp_left mem_allLines_of_mem_ruleLines)

theorem mem_or_mem_of_mem_ruleLines_append {front back line : String}
    (hlast : (allLines front).getLast? ≠ some "")
    (h : line ∈ ruleLines (front ++ "\n" ++ back)) :
    line ∈ ruleLines front ∨ line ∈ ruleLines back := by
  rw [ruleLines_append] at h
  split at h
  · exact .inl h
  · rw [← ruleLines_of_getLast? hlast] at h
    exact List.mem_append.mp h

/-- A line without one carriage return at its end. -/
def stripReturn (line : String) : String :=
  String.ofList (dropReturn line.toList)

/-- Lines put together are the lines of the text, if none of them is empty. -/
theorem ruleLines_intercalate {lines : List String} (hnewline : ∀ line ∈ lines, '\n' ∉ line.toList)
    (hne : ∀ line ∈ lines, stripReturn line ≠ "") :
    ruleLines ("\n".intercalate lines) = lines.map stripReturn := by
  rcases List.eq_nil_or_concat lines with rfl | ⟨front, last, hlines⟩
  · rfl
  · have hall : allLines ("\n".intercalate lines) = lines.map stripReturn := by
      have hchars : ("\n".intercalate lines).toList = ['\n'].intercalate (lines.map String.toList) :=
        String.toList_intercalate
      have hpieces : (lines.map String.toList) ≠ [] := by
        simp [hlines]
      rw [allLines, hchars, List.splitOn_intercalate '\n' _ hpieces, List.map_map, List.map_map]
      · rfl
      · intro piece hpiece
        obtain ⟨line, hline, rfl⟩ := List.mem_map.mp hpiece
        exact hnewline line hline
    rw [← hall]
    refine ruleLines_of_getLast? ?_
    rw [hall, hlines, List.concat_eq_append, List.map_append, List.map_singleton,
      List.getLast?_concat]
    intro hempty
    exact hne last (by simp [hlines]) (Option.some.inj hempty)

end Enrich.Text
