/-!
# Cutting a text

A text is cut in two at the first place where a mark stands, the mark belonging to neither part.
Main statements: a text is cut at a mark that does not stand in its first part (`cut?_append`), and
at its last mark in one way only (`eq_and_eq_of_append_cons`).
-/

namespace Enrich.Text

/-- The parts of a text before and behind the first place where `mark` stands. -/
def cut? (mark : List Char) : List Char → Option (List Char × List Char)
  | [] => none
  | c :: rest =>
    if mark.isPrefixOf (c :: rest) then some ([], (c :: rest).drop mark.length)
    else (cut? mark rest).map fun (front, back) => (c :: front, back)

/-- A text is cut at a mark that does not stand in its first part. -/
theorem cut?_append {c : Char} {front back : List Char} (h : c ∉ front) :
    cut? [c] (front ++ c :: back) = some (front, back) := by
  induction front with
  | nil => simp [cut?]
  | cons d front ih =>
    rw [List.mem_cons, not_or] at h
    simp [cut?, h.1, ih h.2]

/-- A text is cut at its last mark in one way only. -/
theorem eq_and_eq_of_append_cons {mark : Char} {front front' back back' : List Char}
    (hback : mark ∉ back) (hback' : mark ∉ back')
    (h : front ++ mark :: back = front' ++ mark :: back') : front = front' ∧ back = back' := by
  -- The last mark is the first one of the text read from its end.
  have hreversed : back.reverse ++ mark :: front.reverse =
      back'.reverse ++ mark :: front'.reverse := by
    simpa using congrArg List.reverse h
  have hmark : mark ∉ back.reverse := by simpa using hback
  have hmark' : mark ∉ back'.reverse := by simpa using hback'
  have hcut := congrArg (cut? [mark]) hreversed
  rw [cut?_append hmark, cut?_append hmark'] at hcut
  simp only [Option.some.injEq, Prod.mk.injEq, List.reverse_inj] at hcut
  exact ⟨hcut.2, hcut.1⟩

end Enrich.Text
