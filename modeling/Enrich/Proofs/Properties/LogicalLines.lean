import Enrich.Properties.LogicalLine
import Mathlib.Data.List.Induction

/-!
# How lines are put together

Lines are taken in runs: a blank line or a comment is passed over, and any other line opens a span,
which goes on as long as its lines end in an odd number of backslashes. `AreLogicalLines` says this
line by line of the text, `assemble` keeps the logical line that is open instead. The two agree
(`areLogicalLines_iff`), since what is open always ends in an even number of backslashes.
-/

namespace Enrich.Properties

/-- Whether a text ends in an odd number of backslashes, so that what follows is escaped. -/
def EndsOdd (text : List Char) : Prop :=
  ∃ front n, text = front ++ List.replicate (2 * n + 1) '\\' ∧ front.getLast? ≠ some '\\'

/-! ## Backslashes at the end of a text -/

section

variable {text front : List Char}

theorem leadingBackslashes_of_ne {c : Char} (hc : c ≠ '\\') :
    leadingBackslashes (c :: text) = 0 := by
  simp [leadingBackslashes, hc]

theorem leadingBackslashes_backslash :
    leadingBackslashes ('\\' :: text) = leadingBackslashes text + 1 := by
  simp [leadingBackslashes]

theorem leadingBackslashes_replicate_append (n : Nat) (hhead : text.head? ≠ some '\\') :
    leadingBackslashes (List.replicate n '\\' ++ text) = n := by
  induction n with
  | zero =>
    rw [List.replicate_zero, List.nil_append]
    cases text with
    | nil => rfl
    | cons c text => exact leadingBackslashes_of_ne fun hc => hhead (by rw [hc]; rfl)
  | succ n ih => rw [List.replicate_succ, List.cons_append, leadingBackslashes_backslash, ih]

theorem exists_eq_replicate_append (text : List Char) :
    ∃ rest, text = List.replicate (leadingBackslashes text) '\\' ++ rest ∧
      rest.head? ≠ some '\\' := by
  induction text with
  | nil => exact ⟨[], rfl, by simp⟩
  | cons c text ih =>
    by_cases hc : c = '\\'
    · obtain ⟨rest, htext, hhead⟩ := ih
      subst hc
      refine ⟨rest, ?_, hhead⟩
      rw [leadingBackslashes_backslash, List.replicate_succ, List.cons_append, ← htext]
    · refine ⟨c :: text, ?_, by simpa using hc⟩
      rw [leadingBackslashes_of_ne hc]
      rfl

theorem isOpen_iff : isOpen text.reverse = true ↔ EndsOdd text := by
  rw [isOpen, beq_iff_eq]
  constructor
  · intro hodd
    obtain ⟨rest, htext, hhead⟩ := exists_eq_replicate_append text.reverse
    refine ⟨rest.reverse, leadingBackslashes text.reverse / 2, ?_, ?_⟩
    · have hcount : 2 * (leadingBackslashes text.reverse / 2) + 1 =
          leadingBackslashes text.reverse := by omega
      rw [hcount]
      simpa using congrArg List.reverse htext
    · rwa [List.getLast?_reverse]
  · rintro ⟨front, n, rfl, hlast⟩
    rw [List.reverse_append, List.reverse_replicate, leadingBackslashes_replicate_append]
    · omega
    · rwa [List.head?_reverse]

instance : DecidablePred EndsOdd := fun text =>
  decidable_of_iff (isOpen text.reverse = true) isOpen_iff

theorem isOpen_reverse (text : List Char) : isOpen text.reverse = decide (EndsOdd text) := by
  rw [Bool.eq_iff_iff, decide_eq_true_iff, isOpen_iff]

theorem not_endsOdd_nil : ¬ EndsOdd [] := by
  decide

theorem EndsOdd.ne_nil (h : EndsOdd text) : text ≠ [] := by
  rintro rfl
  exact not_endsOdd_nil h

theorem leadingBackslashes_append_mod (text : List Char) {rest : List Char}
    (hrest : leadingBackslashes rest % 2 = 0) :
    leadingBackslashes (text ++ rest) % 2 = leadingBackslashes text % 2 := by
  induction text with
  | nil => exact hrest
  | cons c text ih =>
    rw [List.cons_append]
    by_cases hc : c = '\\'
    · subst hc
      rw [leadingBackslashes_backslash, leadingBackslashes_backslash]
      omega
    · rw [leadingBackslashes_of_ne hc, leadingBackslashes_of_ne hc]

/-- Behind a text that does not end in an odd number of backslashes, another one ends so exactly if
it does on its own. -/
theorem endsOdd_append_iff (hfront : ¬ EndsOdd front) : EndsOdd (front ++ text) ↔ EndsOdd text := by
  rw [← isOpen_iff, isOpen, beq_iff_eq] at hfront
  rw [← isOpen_iff, ← isOpen_iff, isOpen, isOpen, beq_iff_eq, beq_iff_eq, List.reverse_append,
    leadingBackslashes_append_mod _ (by omega)]

theorem endsOdd_concat_iff {c : Char} : EndsOdd (text ++ [c]) ↔ c = '\\' ∧ ¬ EndsOdd text := by
  rw [← isOpen_iff, ← isOpen_iff, isOpen, isOpen, beq_iff_eq, beq_iff_eq, List.reverse_concat]
  by_cases hc : c = '\\'
  · subst hc
    rw [leadingBackslashes_backslash]
    simp only [true_and]
    omega
  · rw [leadingBackslashes_of_ne hc]
    simp [hc]

theorem endsOdd_dropLast (h : EndsOdd text) : ¬ EndsOdd text.dropLast := by
  rw [← List.dropLast_concat_getLast h.ne_nil, endsOdd_concat_iff] at h
  exact h.2

theorem not_endsOdd_of_isSpace (h : ∀ c ∈ text, isSpace c = true) : ¬ EndsOdd text := by
  rcases List.eq_nil_or_concat text with rfl | ⟨front, c, rfl⟩
  · exact not_endsOdd_nil
  · rw [List.concat_eq_append, endsOdd_concat_iff]
    rintro ⟨rfl, -⟩
    have hspace := h '\\' (by simp)
    cases hspace

theorem endsOdd_trimStart_iff : EndsOdd (trimStart text) ↔ EndsOdd text := by
  have hblanks : ¬ EndsOdd (text.takeWhile isSpace) :=
    not_endsOdd_of_isSpace (List.all_eq_true.mp List.all_takeWhile)
  have happend := @endsOdd_append_iff (trimStart text) _ hblanks
  rwa [trimStart, List.takeWhile_append_dropWhile, iff_comm] at happend

end

/-! ## Runs of lines -/

/-- What a line adds to its logical line: all but the blanks at its start and, if it goes on, its
last backslash. -/
def addition (line : List Char) : List Char :=
  if EndsOdd line then (trimStart line).dropLast else trimStart line

/-- Whether some lines in front of a `rest` make up one logical line. -/
structure IsSpan (span rest : List (List Char)) : Prop where
  opens : ∃ first, span.head? = some first ∧ isSkipped (trimStart first) = false
  goes_on : ∀ line ∈ span.dropLast, EndsOdd line
  ends : ∀ last, span.getLast? = some last → EndsOdd last → rest = []

/-- Whether some lines, of which the first has the given number, are put together to logical lines,
each with the number of its first line. A span that adds up to nothing is dropped. -/
inductive AreLogicalLines : Nat → List (List Char) → List (Nat × List Char) → Prop
  | nil {number} : AreLogicalLines number [] []
  | skipped {number line lines logical} (hline : isSkipped (trimStart line) = true)
      (rest : AreLogicalLines (number + 1) lines logical) :
      AreLogicalLines number (line :: lines) logical
  | span {number span lines logical} (hspan : IsSpan span lines)
      (hadds : span.flatMap addition ≠ [])
      (rest : AreLogicalLines (number + span.length) lines logical) :
      AreLogicalLines number (span ++ lines) ((number, span.flatMap addition) :: logical)
  | emptySpan {number span lines logical} (hspan : IsSpan span lines)
      (hadds : span.flatMap addition = [])
      (rest : AreLogicalLines (number + span.length) lines logical) :
      AreLogicalLines number (span ++ lines) logical

section

variable {line last : List Char} {lines span rest : List (List Char)} {number first : Nat}
  {logical : List (Nat × List Char)} {before : List Char}

/-! ## From an open line to the end of its span -/

theorem assemble_open (h : isSkipped (trimStart line) = false) :
    assemble none number (line :: lines) =
      assemble (some (number, [])) number (line :: lines) := by
  rw [assemble, assemble]
  simp only [h, Bool.false_eq_true, if_false, List.reverse]
  rfl

theorem assemble_skipped (h : isSkipped (trimStart line) = true) :
    assemble none number (line :: lines) = assemble none (number + 1) lines := by
  rw [assemble]
  simp only [h, if_true]

theorem isOpen_behind (hbefore : ¬ EndsOdd before) :
    isOpen ((trimStart line).reverseAux before.reverse) = decide (EndsOdd line) := by
  rw [List.reverseAux_eq, ← List.reverse_append, isOpen_reverse, decide_eq_decide,
    endsOdd_append_iff hbefore, endsOdd_trimStart_iff]

theorem assemble_goes_on (hbefore : ¬ EndsOdd before) (hline : EndsOdd line) :
    assemble (some (first, before.reverse)) number (line :: lines) =
      assemble (some (first, (before ++ addition line).reverse)) (number + 1) lines := by
  have htrim : trimStart line ≠ [] := (endsOdd_trimStart_iff.mpr hline).ne_nil
  have hadds : ((trimStart line).reverseAux before.reverse).tail =
      (before ++ addition line).reverse := by
    rw [addition, if_pos hline, List.reverseAux_eq, List.tail_append_of_ne_nil (by simpa using htrim),
      List.tail_reverse, List.reverse_append]
  rw [assemble]
  simp only [isOpen_behind hbefore, hline, decide_true, if_true, hadds]

theorem assemble_ends (hbefore : ¬ EndsOdd before) (hline : ¬ EndsOdd line) :
    assemble (some (first, before.reverse)) number (line :: lines) =
      entryLine first (before ++ addition line).reverse ++ assemble none (number + 1) lines := by
  rw [assemble]
  simp only [isOpen_behind hbefore, hline, decide_false, Bool.false_eq_true, if_false]
  rw [addition, if_neg hline, List.reverseAux_eq, List.reverse_append]

theorem not_endsOdd_append_addition (hbefore : ¬ EndsOdd before) (hline : EndsOdd line) :
    ¬ EndsOdd (before ++ addition line) := by
  rw [endsOdd_append_iff hbefore, addition, if_pos hline]
  exact endsOdd_dropLast (endsOdd_trimStart_iff.mpr hline)

/-- The lines of a span are added one by one to what is open. -/
theorem assemble_append {front : List (List Char)} (hfront : ∀ line ∈ front, EndsOdd line)
    (hlast : EndsOdd last → lines = []) (hbefore : ¬ EndsOdd before) :
    assemble (some (first, before.reverse)) number (front ++ last :: lines) =
      entryLine first (before ++ (front ++ [last]).flatMap addition).reverse ++
        assemble none (number + (front ++ [last]).length) lines := by
  -- What is open so far and the number of the line change from line to line.
  induction front generalizing before number with
  | nil =>
    rw [List.nil_append, List.nil_append, List.flatMap_singleton, List.length_singleton]
    by_cases hopen : EndsOdd last
    · rw [assemble_goes_on hbefore hopen, hlast hopen, assemble, assemble, List.append_nil]
    · exact assemble_ends hbefore hopen
  | cons line front ih =>
    obtain ⟨hline, hfront⟩ := List.forall_mem_cons.mp hfront
    rw [List.cons_append, assemble_goes_on hbefore hline,
      ih hfront (not_endsOdd_append_addition hbefore hline), List.cons_append, List.flatMap_cons,
      List.append_assoc, List.length_cons, Nat.add_right_comm, Nat.add_assoc]

theorem assemble_span (h : IsSpan span rest) :
    assemble none number (span ++ rest) =
      entryLine number (span.flatMap addition).reverse ++
        assemble none (number + span.length) rest := by
  obtain ⟨opening, hopening, hskipped⟩ := h.opens
  obtain ⟨others, rfl⟩ := List.head?_eq_some_iff.mp hopening
  obtain ⟨front, last, hspan⟩ := List.eq_nil_or_concat (opening :: others) |>.resolve_left (by simp)
  rw [List.concat_eq_append] at hspan
  have hgoes : ∀ line ∈ front, EndsOdd line := by
    have hgoes := h.goes_on
    rwa [hspan, List.dropLast_concat] at hgoes
  have hends : EndsOdd last → rest = [] := h.ends last (by rw [hspan, List.getLast?_concat])
  have hrun := @assemble_append last rest number number [] front hgoes hends not_endsOdd_nil
  rw [List.cons_append, assemble_open hskipped, ← List.cons_append, hspan, List.append_assoc]
  exact hrun

/-! ## All runs -/

theorem AreLogicalLines.eq (h : AreLogicalLines number lines logical) :
    logical = assemble none number lines := by
  induction h with
  | nil => rfl
  | skipped hline _ ih => rw [assemble_skipped hline, ih]
  | span hspan hadds _ ih =>
    rw [assemble_span hspan, ih]
    simp [entryLine, hadds]
  | emptySpan hspan hadds _ ih =>
    rw [assemble_span hspan, ih, hadds]
    simp [entryLine]

theorem exists_append (line : List Char) (lines : List (List Char)) :
    ∃ front last rest, line :: lines = front ++ last :: rest ∧ (∀ l ∈ front, EndsOdd l) ∧
      (EndsOdd last → rest = []) := by
  induction lines generalizing line with
  | nil => exact ⟨[], line, [], rfl, by simp, fun _ => rfl⟩
  | cons next lines ih =>
    by_cases hline : EndsOdd line
    · obtain ⟨front, last, rest, hlines, hfront, hlast⟩ := ih next
      exact ⟨line :: front, last, rest, by rw [hlines, List.cons_append],
        List.forall_mem_cons.mpr ⟨hline, hfront⟩, hlast⟩
    · exact ⟨[], line, next :: lines, rfl, by simp, fun h => absurd h hline⟩

theorem exists_isSpan (h : isSkipped (trimStart line) = false) (lines : List (List Char)) :
    ∃ span rest, line :: lines = span ++ rest ∧ IsSpan span rest := by
  obtain ⟨front, last, rest, hlines, hfront, hlast⟩ := exists_append line lines
  refine ⟨front ++ [last], rest, by rw [hlines, List.append_assoc]; rfl, ?_, ?_, ?_⟩
  · refine ⟨line, ?_, h⟩
    cases front with
    | nil => exact congrArg List.head? hlines.symm |>.trans rfl
    | cons first front => exact congrArg List.head? hlines.symm |>.trans rfl
  · rwa [List.dropLast_concat]
  · intro last' hlast'
    rw [List.getLast?_concat] at hlast'
    cases hlast'
    exact hlast

theorem IsSpan.length_pos (h : IsSpan span rest) : 0 < span.length := by
  obtain ⟨opening, hopening, -⟩ := h.opens
  obtain ⟨others, rfl⟩ := List.head?_eq_some_iff.mp hopening
  exact Nat.succ_pos _

theorem exists_areLogicalLines (number : Nat) (lines : List (List Char)) :
    ∃ logical, AreLogicalLines number lines logical := by
  induction hlength : lines.length using Nat.strongRecOn generalizing number lines with
  | ind n ih =>
    cases lines with
    | nil => exact ⟨[], .nil⟩
    | cons line lines =>
      cases hskipped : isSkipped (trimStart line) with
      | true =>
        obtain ⟨logical, hlogical⟩ :=
          ih lines.length (by rw [← hlength]; exact Nat.lt_succ_self _) (number + 1) lines rfl
        exact ⟨logical, .skipped hskipped hlogical⟩
      | false =>
        obtain ⟨span, rest, hlines, hspan⟩ := exists_isSpan hskipped lines
        have hshorter : rest.length < n := by
          rw [← hlength, hlines, List.length_append]
          exact Nat.lt_add_of_pos_left hspan.length_pos
        obtain ⟨logical, hlogical⟩ := ih rest.length hshorter (number + span.length) rest rfl
        rw [hlines]
        by_cases hadds : span.flatMap addition = []
        · exact ⟨logical, .emptySpan hspan hadds hlogical⟩
        · exact ⟨_, .span hspan hadds hlogical⟩

theorem areLogicalLines_iff :
    AreLogicalLines number lines logical ↔ logical = assemble none number lines := by
  refine ⟨AreLogicalLines.eq, ?_⟩
  rintro rfl
  obtain ⟨logical, hlogical⟩ := exists_areLogicalLines number lines
  rwa [← hlogical.eq]

/-! ## What stands in a logical line -/

theorem addition_sublist (line : List Char) : (addition line).Sublist line := by
  have htrim : (trimStart line).Sublist line := (List.dropWhile_suffix _).sublist
  unfold addition
  split
  · exact (List.dropLast_sublist _).trans htrim
  · exact htrim

theorem flatMap_addition_sublist (span : List (List Char)) :
    (span.flatMap addition).Sublist span.flatten := by
  induction span with
  | nil => exact .slnil
  | cons line span ih =>
    rw [List.flatMap_cons, List.flatten_cons]
    exact (addition_sublist line).append ih

/-- A logical line is made of characters of its lines, in their order. -/
theorem AreLogicalLines.sublist (h : AreLogicalLines number lines logical) :
    ∀ numbered ∈ logical, numbered.2.Sublist lines.flatten := by
  induction h with
  | nil => simp
  | skipped _ _ ih =>
    intro numbered hnumbered
    rw [List.flatten_cons]
    exact (ih numbered hnumbered).trans (List.sublist_append_right _ _)
  | @span _ span _ _ _ _ _ ih =>
    intro numbered hnumbered
    rw [List.flatten_append]
    rcases List.mem_cons.mp hnumbered with rfl | hnumbered
    · exact (flatMap_addition_sublist span).trans (List.sublist_append_left _ _)
    · exact (ih numbered hnumbered).trans (List.sublist_append_right _ _)
  | emptySpan _ _ _ ih =>
    intro numbered hnumbered
    rw [List.flatten_append]
    exact (ih numbered hnumbered).trans (List.sublist_append_right _ _)

end

end Enrich.Properties
