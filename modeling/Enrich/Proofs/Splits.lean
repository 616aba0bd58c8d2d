/-!
# Where a list is cut

A list with a head is cut at the head or somewhere behind it. So what holds wherever a list is cut,
and what holds at one such place, can be shown by induction on the list.
-/

namespace Enrich

/-- What holds wherever a list is cut holds at its head and wherever its tail is cut. -/
theorem forall_split_cons {α : Type} {x : α} {xs : List α} (P : List α → α → List α → Prop) :
    (∀ front y back, x :: xs = front ++ y :: back → P front y back) ↔
      P [] x xs ∧ ∀ front y back, xs = front ++ y :: back → P (x :: front) y back := by
  constructor
  · intro h
    refine ⟨h [] x xs rfl, fun front y back hxs => ?_⟩
    exact h (x :: front) y back (congrArg (x :: ·) hxs)
  · rintro ⟨hx, hxs⟩ front y back h
    cases front with
    | nil =>
      cases h
      exact hx
    | cons z front =>
      cases h
      exact hxs front y back rfl

/-- A list has a cut with a property if it has one at its head or its tail has one. -/
theorem exists_split_cons {α : Type} {x : α} {xs : List α} (P : List α → α → List α → Prop) :
    (∃ front y back, x :: xs = front ++ y :: back ∧ P front y back) ↔
      P [] x xs ∨ ∃ front y back, xs = front ++ y :: back ∧ P (x :: front) y back := by
  constructor
  · rintro ⟨front, y, back, h, hP⟩
    cases front with
    | nil =>
      cases h
      exact .inl hP
    | cons z front =>
      cases h
      exact .inr ⟨front, y, back, rfl, hP⟩
  · rintro (hP | ⟨front, y, back, rfl, hP⟩)
    · exact ⟨[], x, xs, rfl, hP⟩
    · exact ⟨x :: front, y, back, rfl, hP⟩

end Enrich
