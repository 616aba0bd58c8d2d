import Enrich.Proofs.Text.Lines
import Enrich.Properties.LogicalLine

/-!
# The lines of a text of entries

`AreNaturalLines` says what the lines of a text are by its line ends: a newline, a carriage return,
or the two in this order, which count once. Every text has exactly one such list of lines, the one
that `naturalLines` gives (`areNaturalLines_iff`).
-/

namespace Enrich.Properties

/-- Whether no line ends within a piece of text. -/
def Unbroken (line : List Char) : Prop :=
  ∀ c ∈ line, c ≠ '\n' ∧ c ≠ '\r'

/-- Whether some lines are those of a text as it is written. A carriage return ends a line on its
own only if no newline follows. -/
inductive AreNaturalLines : List Char → List (List Char) → Prop
  | last {line} (hline : Unbroken line) : AreNaturalLines line [line]
  | newline {line text lines} (hline : Unbroken line) (rest : AreNaturalLines text lines) :
      AreNaturalLines (line ++ '\n' :: text) (line :: lines)
  | returnNewline {line text lines} (hline : Unbroken line) (rest : AreNaturalLines text lines) :
      AreNaturalLines (line ++ '\r' :: '\n' :: text) (line :: lines)
  | return {line text lines} (hline : Unbroken line) (hnext : text.head? ≠ some '\n')
      (rest : AreNaturalLines text lines) : AreNaturalLines (line ++ '\r' :: text) (line :: lines)

variable {text line : List Char} {lines : List (List Char)} {c : Char}

/-! ## Line ends made one -/

theorem unifyLineEnds_cons (hc : c ≠ '\r') :
    Text.unifyLineEnds (c :: text) = c :: Text.unifyLineEnds text := by
  rw [Text.unifyLineEnds, if_neg hc]
  intro rest hreturn
  exact absurd hreturn hc

theorem unifyLineEnds_return (hnext : text.head? ≠ some '\n') :
    Text.unifyLineEnds ('\r' :: text) = '\n' :: Text.unifyLineEnds text := by
  rw [Text.unifyLineEnds, if_pos rfl]
  rintro rest - rfl
  exact hnext rfl

theorem unifyLineEnds_append (hline : Unbroken line) (text : List Char) :
    Text.unifyLineEnds (line ++ text) = line ++ Text.unifyLineEnds text := by
  induction line with
  | nil => rfl
  | cons c line ih =>
    obtain ⟨hc, hline⟩ := List.forall_mem_cons.mp hline
    rw [List.cons_append, unifyLineEnds_cons hc.2, ih hline, List.cons_append]

theorem unifyLineEnds_of_notMem (h : '\r' ∉ text) : Text.unifyLineEnds text = text := by
  induction text with
  | nil => rfl
  | cons c text ih =>
    obtain ⟨hc, htext⟩ := List.ne_and_not_mem_of_not_mem_cons h
    rw [unifyLineEnds_cons (Ne.symm hc), ih htext]

/-! ## Cutting the text -/

theorem naturalLines_of_unbroken (hline : Unbroken line) : naturalLines line = [line] := by
  have hunified := unifyLineEnds_append hline []
  rw [List.append_nil] at hunified
  rw [naturalLines, hunified, Text.unifyLineEnds, List.append_nil]
  exact List.splitOn_eq_singleton fun hmem => (hline _ hmem).1 rfl

/-- A line that is ended in any of the three ways is the first one. -/
theorem naturalLines_append {ended : List Char} (hline : Unbroken line)
    (hended : Text.unifyLineEnds ended = '\n' :: Text.unifyLineEnds text) :
    naturalLines (line ++ ended) = line :: naturalLines text := by
  rw [naturalLines, unifyLineEnds_append hline, hended, naturalLines]
  exact List.splitOn_append_cons_self_of_not_mem (fun hmem => (hline _ hmem).1 rfl) _

theorem AreNaturalLines.eq (h : AreNaturalLines text lines) : lines = naturalLines text := by
  induction h with
  | last hline => exact (naturalLines_of_unbroken hline).symm
  | newline hline _ ih => rw [naturalLines_append hline (unifyLineEnds_cons (by decide)), ih]
  | returnNewline hline _ ih => rw [naturalLines_append hline rfl, ih]
  | «return» hline hnext _ ih => rw [naturalLines_append hline (unifyLineEnds_return hnext), ih]

theorem unbroken_nil : Unbroken [] := by
  intro c hc
  cases hc

theorem unbroken_cons : Unbroken (c :: line) ↔ (c ≠ '\n' ∧ c ≠ '\r') ∧ Unbroken line :=
  List.forall_mem_cons

/-- A character in front that ends no line belongs to the first line. -/
theorem AreNaturalLines.cons (hc : c ≠ '\n' ∧ c ≠ '\r') (h : AreNaturalLines text lines) :
    ∃ first others, lines = first :: others ∧
      AreNaturalLines (c :: text) ((c :: first) :: others) := by
  cases h with
  | last hline => exact ⟨_, _, rfl, .last (unbroken_cons.mpr ⟨hc, hline⟩)⟩
  | newline hline rest => exact ⟨_, _, rfl, .newline (unbroken_cons.mpr ⟨hc, hline⟩) rest⟩
  | returnNewline hline rest =>
    exact ⟨_, _, rfl, .returnNewline (unbroken_cons.mpr ⟨hc, hline⟩) rest⟩
  | «return» hline hnext rest =>
    exact ⟨_, _, rfl, .return (unbroken_cons.mpr ⟨hc, hline⟩) hnext rest⟩

theorem exists_areNaturalLines (text : List Char) : ∃ lines, AreNaturalLines text lines := by
  -- The cases are those of `unifyLineEnds`: a carriage return takes a newline behind it along.
  induction text using Text.unifyLineEnds.induct with
  | case1 => exact ⟨_, .last unbroken_nil⟩
  | case2 rest ih =>
    obtain ⟨lines, hlines⟩ := ih
    exact ⟨_, .returnNewline unbroken_nil hlines⟩
  | case3 c rest hnext ih =>
    obtain ⟨lines, hlines⟩ := ih
    by_cases hreturn : c = '\r'
    · subst hreturn
      have hhead : rest.head? ≠ some '\n' := by
        intro hhead
        obtain ⟨behind, rfl⟩ := List.head?_eq_some_iff.mp hhead
        exact hnext behind rfl rfl
      exact ⟨_, .return unbroken_nil hhead hlines⟩
    · by_cases hnewline : c = '\n'
      · subst hnewline
        exact ⟨_, .newline unbroken_nil hlines⟩
      · obtain ⟨first, others, -, hcons⟩ := hlines.cons ⟨hnewline, hreturn⟩
        exact ⟨_, hcons⟩

/-- What stands in the lines of a text is all of the text but the line ends. -/
theorem AreNaturalLines.mem_iff (h : AreNaturalLines text lines) :
    (∃ line ∈ lines, c ∈ line) ↔ c ∈ text ∧ c ≠ '\n' ∧ c ≠ '\r' := by
  -- The line ends between the lines are the only characters that count for neither side.
  have hcons : ∀ {line lines ended}, Unbroken line →
      ((∃ other ∈ lines, c ∈ other) ↔ c ∈ ended ∧ c ≠ '\n' ∧ c ≠ '\r') →
      ((∃ other ∈ line :: lines, c ∈ other) ↔ c ∈ line ++ ended ∧ c ≠ '\n' ∧ c ≠ '\r') := by
    intro line lines ended hline hlines
    simp only [List.mem_cons, exists_eq_or_imp, hlines]
    rw [List.mem_append, or_and_right, and_iff_left_of_imp (hline c)]
  induction h with
  | last hline => simpa using hline c
  | newline hline _ ih => exact hcons hline (ih.trans (by grind))
  | returnNewline hline _ ih => exact hcons hline (ih.trans (by grind))
  | «return» hline _ _ ih => exact hcons hline (ih.trans (by grind))

/-- Every line but the first takes one line end more than its characters. -/
theorem AreNaturalLines.length_le (h : AreNaturalLines text lines) :
    lines.flatten.length + lines.length ≤ text.length + 1 := by
  induction h with
  | last hline => simp
  | newline hline _ ih =>
    simp only [List.flatten_cons, List.length_append, List.length_cons]
    omega
  | returnNewline hline _ ih =>
    simp only [List.flatten_cons, List.length_append, List.length_cons]
    omega
  | «return» hline _ _ ih =>
    simp only [List.flatten_cons, List.length_append, List.length_cons]
    omega

theorem areNaturalLines_iff : AreNaturalLines text lines ↔ lines = naturalLines text := by
  refine ⟨AreNaturalLines.eq, ?_⟩
  rintro rfl
  obtain ⟨lines, hlines⟩ := exists_areNaturalLines text
  rwa [← hlines.eq]

end Enrich.Properties
