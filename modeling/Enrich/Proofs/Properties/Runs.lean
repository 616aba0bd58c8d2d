import Enrich.Proofs.Properties.LogicalLines
import Enrich.Proofs.Properties.NaturalLines
import Enrich.Proofs.Splits

/-!
# The lines of a text in runs

The lines of a text are cut into runs: a blank line or a comment on its own, or the span of one
logical line. So no line counts for two logical lines. A logical line is what its span adds up to,
numbered by where the span starts, and a span that adds up to nothing gives none
(`logicalLines_runs`). What a line adds ends in an even number of backslashes, hence so does every
logical line.
-/

namespace Enrich.Properties

/-- Whether a line is blank or a comment, so that it is passed over where no logical line is
open. -/
inductive IsPassedOver : List Char → Prop
  | blank {line} (hblank : ∀ c ∈ line, isSpace c = true) : IsPassedOver line
  | comment {blanks sign rest} (hblanks : ∀ c ∈ blanks, isSpace c = true)
      (hsign : sign = '#' ∨ sign = '!') : IsPassedOver (blanks ++ sign :: rest)

/-- A run of lines. -/
inductive Run where
  | passedOver (line : List Char)
  | span (lines : List (List Char))

namespace Run

/-- The lines of a run. -/
def lines : Run → List (List Char)
  | passedOver line => [line]
  | span lines => lines

/-- What a run adds up to. -/
def text : Run → List Char
  | passedOver _ => []
  | span lines => lines.flatMap addition

/-- Whether a run is one in front of the other lines of a text. -/
inductive StandsBefore : Run → List (List Char) → Prop
  | passedOver {line rest} (hline : IsPassedOver line) : StandsBefore (passedOver line) rest
  | span {lines rest} (hspan : IsSpan lines rest) : StandsBefore (span lines) rest

end Run

/-- Whether some runs are a cut of some lines. -/
structure IsCut (runs : List Run) (lines : List (List Char)) : Prop where
  lines_eq : lines = runs.flatMap Run.lines
  standsBefore : ∀ front run back, runs = front ++ run :: back →
    run.StandsBefore (back.flatMap Run.lines)

variable {line : List Char} {lines : List (List Char)} {number : Nat} {runs : List Run} {run : Run}
  {logical : List (Nat × List Char)}

/-! ## Lines that are passed over -/

theorem isPassedOver_iff : IsPassedOver line ↔ isSkipped (trimStart line) = true := by
  constructor
  · rintro (hblank | ⟨hblanks, hsign⟩)
    · rw [trimStart, List.dropWhile_eq_nil_iff.mpr hblank]
      rfl
    · rw [trimStart, List.dropWhile_append_of_pos hblanks]
      rcases hsign with rfl | rfl
      · rfl
      · rfl
  · intro hskipped
    have hline : line.takeWhile isSpace ++ trimStart line = line :=
      List.takeWhile_append_dropWhile
    have hblanks : ∀ c ∈ line.takeWhile isSpace, isSpace c = true :=
      fun c hc => List.mem_takeWhile_imp hc
    rw [← hline]
    cases htrim : trimStart line with
    | nil => exact .blank (by rwa [List.append_nil])
    | cons sign rest =>
      rw [htrim] at hskipped
      exact .comment hblanks (by simpa [isSkipped] using hskipped)

/-! ## The runs of a text -/

theorem IsCut.nil : IsCut [] [] :=
  ⟨rfl, fun front run back h => by simp at h⟩

theorem IsCut.cons (hrun : run.StandsBefore lines) (h : IsCut runs lines) :
    IsCut (run :: runs) (run.lines ++ lines) := by
  refine ⟨by rw [h.lines_eq, List.flatMap_cons], ?_⟩
  have hcuts := @forall_split_cons Run run runs
    fun _ run back => run.StandsBefore (back.flatMap Run.lines)
  exact hcuts.mpr ⟨h.lines_eq ▸ hrun, h.standsBefore⟩

/-- Whether a run somewhere among others, whose lines start at the given number, makes a logical
line. -/
def Makes (number : Nat) (runs : List Run) (numbered : Nat × List Char) : Prop :=
  ∃ front run back, runs = front ++ run :: back ∧
    numbered = (number + (front.flatMap Run.lines).length, run.text) ∧ run.text ≠ []

theorem not_makes_nil {numbered : Nat × List Char} : ¬ Makes number [] numbered := by
  rintro ⟨front, run, back, h, -⟩
  simp at h

theorem makes_cons {numbered : Nat × List Char} : Makes number (run :: runs) numbered ↔
    numbered = (number, run.text) ∧ run.text ≠ [] ∨
      Makes (number + run.lines.length) runs numbered := by
  unfold Makes
  rw [exists_split_cons fun front run _ =>
    numbered = (number + (front.flatMap Run.lines).length, run.text) ∧ run.text ≠ []]
  simp [Nat.add_assoc]

/-- Lines that are put together to logical lines can be cut into runs that make these. -/
theorem AreLogicalLines.exists_runs (h : AreLogicalLines number lines logical) :
    ∃ runs, IsCut runs lines ∧ ∀ numbered, numbered ∈ logical ↔ Makes number runs numbered := by
  induction h with
  | nil => exact ⟨[], .nil, fun _ => by simp [not_makes_nil]⟩
  | @skipped _ line _ _ hline _ ih =>
    obtain ⟨runs, hcut, hmakes⟩ := ih
    refine ⟨.passedOver line :: runs, hcut.cons (.passedOver (isPassedOver_iff.mpr hline)), ?_⟩
    simp [makes_cons, hmakes, Run.text, Run.lines]
  | @span _ span _ _ hspan hadds _ ih =>
    obtain ⟨runs, hcut, hmakes⟩ := ih
    refine ⟨.span span :: runs, hcut.cons (.span hspan), ?_⟩
    simp [makes_cons, hmakes, Run.text, Run.lines, hadds]
  | @emptySpan _ span _ _ hspan hadds _ ih =>
    obtain ⟨runs, hcut, hmakes⟩ := ih
    refine ⟨.span span :: runs, hcut.cons (.span hspan), ?_⟩
    simp [makes_cons, hmakes, Run.text, Run.lines, hadds]

/-! ## Numbers -/

theorem AreLogicalLines.number_bounds (h : AreLogicalLines number lines logical) :
    ∀ numbered ∈ logical, number ≤ numbered.1 ∧ numbered.1 < number + lines.length := by
  induction h with
  | nil => simp
  | skipped _ _ ih =>
    intro numbered hnumbered
    have hbounds := ih numbered hnumbered
    rw [List.length_cons]
    omega
  | span hspan _ _ ih =>
    intro numbered hnumbered
    have hpos := hspan.length_pos
    rw [List.length_append]
    rcases List.mem_cons.mp hnumbered with rfl | hnumbered
    · dsimp only
      omega
    · have hbounds := ih numbered hnumbered
      omega
  | emptySpan _ _ _ ih =>
    intro numbered hnumbered
    have hbounds := ih numbered hnumbered
    rw [List.length_append]
    omega

theorem AreLogicalLines.pairwise_number (h : AreLogicalLines number lines logical) :
    logical.Pairwise fun a b => a.1 < b.1 := by
  induction h with
  | nil => exact .nil
  | skipped _ _ ih => exact ih
  | span hspan _ rest ih =>
    refine .cons (fun numbered hnumbered => ?_) ih
    have hpos := hspan.length_pos
    have hbounds := rest.number_bounds numbered hnumbered
    omega
  | emptySpan _ _ _ ih => exact ih

/-! ## What logical lines end in -/

theorem not_endsOdd_addition (line : List Char) : ¬ EndsOdd (addition line) := by
  unfold addition
  split
  · next hodd => exact endsOdd_dropLast (endsOdd_trimStart_iff.mpr hodd)
  · next heven => rwa [endsOdd_trimStart_iff]

theorem not_endsOdd_flatMap_addition (span : List (List Char)) :
    ¬ EndsOdd (span.flatMap addition) := by
  induction span with
  | nil => exact not_endsOdd_nil
  | cons line span ih => rwa [List.flatMap_cons, endsOdd_append_iff (not_endsOdd_addition line)]

theorem AreLogicalLines.not_endsOdd (h : AreLogicalLines number lines logical) :
    ∀ numbered ∈ logical, ¬ EndsOdd numbered.2 := by
  induction h with
  | nil => simp
  | skipped _ _ ih => exact ih
  | span _ _ _ ih =>
    exact List.forall_mem_cons.mpr ⟨not_endsOdd_flatMap_addition _, ih⟩
  | emptySpan _ _ _ ih => exact ih

/-- **Each line counts once.** The lines of a text are cut into runs: lines that are blank or
comments, and spans, of which every line but the last goes on in the next one, and the last does not
unless it is the last line of the text. The logical lines are what the spans add up to, but for
those that add up to nothing, each with the number of its first line, in order. None of them ends in
an odd number of backslashes, and no line ends in one. -/
theorem logicalLines_runs (text : String) :
    ∃ lines runs, AreNaturalLines text.toList lines ∧ IsCut runs lines ∧
      (∀ numbered, numbered ∈ logicalLines text.toList ↔ Makes 1 runs numbered) ∧
      (logicalLines text.toList).Pairwise (fun a b => a.1 < b.1) ∧
      ∀ numbered ∈ logicalLines text.toList, ¬ EndsOdd numbered.2 ∧ Unbroken numbered.2 := by
  have hlines : AreNaturalLines text.toList (naturalLines text.toList) := areNaturalLines_iff.mpr rfl
  have hlogical : AreLogicalLines 1 (naturalLines text.toList) (logicalLines text.toList) :=
    areLogicalLines_iff.mpr rfl
  obtain ⟨runs, hcut, hmakes⟩ := hlogical.exists_runs
  refine ⟨_, runs, hlines, hcut, hmakes, hlogical.pairwise_number, fun numbered hnumbered => ?_⟩
  refine ⟨hlogical.not_endsOdd numbered hnumbered, fun c hc => ?_⟩
  have hmem : c ∈ (naturalLines text.toList).flatten :=
    (hlogical.sublist numbered hnumbered).subset hc
  exact (hlines.mem_iff.mp (List.mem_flatten.mp hmem)).2

/-- The first span adds up to nothing, and the last one is open at the end of the text. -/
example : logicalLines "\\\n\n# c\n k\\\\\\\n\tv\\".toList = [(4, "k\\\\v".toList)] := by
  decide +kernel

end Enrich.Properties
