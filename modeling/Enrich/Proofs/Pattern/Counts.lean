import Enrich.Pattern.Parser
import Enrich.Proofs.Except

/-!
# Counts of a pattern

The reader gives no repetition whose least count is above its greatest (`countsOrdered_parse`). The
invariant says so of all patterns that the reader holds: every step adds an item without
repetitions, repeats the last item with ordered counts, or puts items together.
-/

namespace Enrich.Pattern

mutual

/-- Whether the least count of every repetition is at most its greatest. -/
def CountsOrdered : Pattern → Prop
  | repetition body min max _ => (∀ m, max = some m → min ≤ m) ∧ body.CountsOrdered
  | group _ body => body.CountsOrdered
  | alternation branches => AllCountsOrdered branches
  | concat items => AllCountsOrdered items
  | _ => True

/-- Whether this is so for each of some patterns. -/
def AllCountsOrdered : List Pattern → Prop
  | [] => True
  | p :: ps => p.CountsOrdered ∧ AllCountsOrdered ps

end

theorem allCountsOrdered_iff {ps : List Pattern} :
    AllCountsOrdered ps ↔ ∀ p ∈ ps, p.CountsOrdered := by
  induction ps with
  | nil => simp [AllCountsOrdered]
  | cons p ps ih => simp [AllCountsOrdered, ih]

theorem countsOrdered_ofItems {items : List Pattern} (h : ∀ p ∈ items, p.CountsOrdered) :
    (ofItems items).CountsOrdered := by
  unfold ofItems
  split
  · trivial
  · exact h _ List.mem_cons_self
  · exact allCountsOrdered_iff.mpr h

theorem countsOrdered_ofBranches {branches : List Pattern} (h : ∀ p ∈ branches, p.CountsOrdered) :
    (ofBranches branches).CountsOrdered := by
  unfold ofBranches
  split
  · exact h _ List.mem_cons_self
  · exact allCountsOrdered_iff.mpr h

/-! ## Scanned parts -/

theorem countsOrdered_scanUnicodeClass {verbose negated : Bool} {text rest : List Char}
    {p : Pattern} (h : scanUnicodeClass verbose negated text = .ok (p, rest)) :
    p.CountsOrdered := by
  unfold scanUnicodeClass at h
  split at h
  · split at h
    · cases h
      trivial
    · cases h
  · cases h
  · cases h
    trivial
  · cases h

/-- An escape holds no repetition. -/
theorem countsOrdered_scanEscape {verbose : Bool} {text rest : List Char} {p : Pattern}
    (h : scanEscape verbose text = .ok (p, rest)) : p.CountsOrdered := by
  unfold scanEscape at h
  split at h
  · cases h
  · dsimp only at h
    split at h
    -- the hexadecimal escapes, the named classes, the word edge and the rest
    iterate 3
      obtain ⟨l, -, h⟩ := map_eq_ok.mp h
      cases h
      trivial
    iterate 2 exact countsOrdered_scanUnicodeClass h
    iterate 14
      cases h
      trivial
    · obtain ⟨edge, -, h⟩ := map_eq_ok.mp h
      cases h
      trivial
    iterate 3
      cases h
      trivial
    · split at h
      · cases h
        trivial
      · cases h

/-- A bracket holds no repetition. -/
theorem countsOrdered_scanBracketBody {verbose : Bool} {fuel : Nat} {current : OpenBracket}
    {stack : List OpenBracket} {items : List Bracket} {text rest : List Char} {p : Pattern}
    (h : scanBracketBody verbose fuel current stack items text = .ok (p, rest)) :
    p.CountsOrdered := by
  induction fuel generalizing current stack items text with
  | zero => cases h
  | succ fuel ih =>
    simp only [scanBracketBody] at h
    split at h
    · cases h
    · split at h
      · exact ih h
      · obtain ⟨start, -, h⟩ := bind_eq_ok.mp h
        exact ih h
    · split at h
      · cases h
        trivial
      · exact ih h
    iterate 3 exact ih h
    · obtain ⟨item, -, h⟩ := bind_eq_ok.mp h
      exact ih h

theorem countsOrdered_scanBracket {verbose : Bool} {text rest : List Char} {p : Pattern}
    (h : scanBracket verbose text = .ok (p, rest)) : p.CountsOrdered := by
  obtain ⟨start, -, h⟩ := bind_eq_ok.mp h
  exact countsOrdered_scanBracketBody h

theorem scanCounts_ordered {verbose : Bool} {text rest : List Char} {min : Nat} {max : Option Nat}
    (h : scanCounts verbose text = .ok ((min, max), rest)) : ∀ m, max = some m → min ≤ m := by
  unfold scanCounts at h
  obtain ⟨⟨least, behind⟩, -, h⟩ := bind_eq_ok.mp h
  dsimp only at h
  split at h
  · split at h
    · cases h
      simp
    · obtain ⟨⟨greatest, behind⟩, -, h⟩ := bind_eq_ok.mp h
      split at h
      · split at h
        · next hle =>
          cases h
          simpa using hle
        · cases h
      · cases h
  · cases h
    simp
  · cases h

/-! ## The reader -/

namespace Progress

/-- Whether the counts of all patterns held by the reader are ordered. -/
structure Ordered (s : Progress) : Prop where
  items : ∀ p ∈ s.items, p.CountsOrdered
  branches : ∀ p ∈ s.branches, p.CountsOrdered
  groups : ∀ g ∈ s.groups, (∀ p ∈ g.items, p.CountsOrdered) ∧ ∀ p ∈ g.branches, p.CountsOrdered

variable {s t : Progress}

theorem Ordered.push (h : s.Ordered) {p : Pattern} (hp : p.CountsOrdered) : (s.push p).Ordered :=
  ⟨List.forall_mem_cons.mpr ⟨hp, h.items⟩, h.branches, h.groups⟩

theorem Ordered.body (h : s.Ordered) : s.body.CountsOrdered := by
  have hitems : (ofItems s.items.reverse).CountsOrdered :=
    countsOrdered_ofItems fun p hp => h.items p (List.mem_reverse.mp hp)
  refine countsOrdered_ofBranches fun p hp => ?_
  rcases List.mem_cons.mp (List.mem_reverse.mp hp) with rfl | hp
  · exact hitems
  · exact h.branches p hp

theorem Ordered.repeatLast (h : s.Ordered) {min : Nat} {max : Option Nat} {lazy : Bool}
    (hcounts : ∀ m, max = some m → min ≤ m) (ht : s.repeatLast min max lazy = .ok t) :
    t.Ordered := by
  unfold Progress.repeatLast at ht
  split at ht
  · cases ht
  · cases ht
  · cases ht
  · next item items _ _ hitems =>
    cases ht
    have hall := h.items
    rw [hitems] at hall
    obtain ⟨hitem, hrest⟩ := List.forall_mem_cons.mp hall
    exact ⟨List.forall_mem_cons.mpr ⟨⟨hcounts, hitem⟩, hrest⟩, h.branches, h.groups⟩

theorem Ordered.openGroup (h : s.Ordered) {opening : GroupOpening}
    (ht : s.openGroup opening = .ok t) : t.Ordered := by
  unfold Progress.openGroup at ht
  split at ht
  · cases ht
    exact ⟨List.forall_mem_cons.mpr ⟨trivial, h.items⟩, h.branches, h.groups⟩
  · split at ht
    · cases ht
    · cases ht
      exact ⟨by simp, by simp, List.forall_mem_cons.mpr ⟨⟨h.items, h.branches⟩, h.groups⟩⟩

theorem Ordered.closeGroup (h : s.Ordered) (ht : s.closeGroup = .ok t) : t.Ordered := by
  unfold Progress.closeGroup at ht
  split at ht
  · cases ht
  · next g groups hgroups =>
    cases ht
    have hall := h.groups
    rw [hgroups] at hall
    obtain ⟨⟨hitems, hbranches⟩, hrest⟩ := List.forall_mem_cons.mp hall
    exact ⟨List.forall_mem_cons.mpr ⟨h.body, hitems⟩, hbranches, hrest⟩

theorem Ordered.step (h : s.Ordered) {c : Char} {text rest : List Char}
    (ht : s.step c text = .ok (t, rest)) : t.Ordered := by
  have hrepetition : ∀ {min max text}, (∀ m, max = some m → min ≤ m) →
      (do pure (← s.repeatLast min max (scanLazy text).1, (scanLazy text).2)) =
        (.ok (t, rest) : Except PatternError _) → t.Ordered := by
    intro min max text hcounts ht
    obtain ⟨u, hu, ht⟩ := bind_eq_ok.mp ht
    cases ht
    exact h.repeatLast hcounts hu
  unfold Progress.step at ht
  dsimp only at ht
  split at ht
  · obtain ⟨opening, -, ht⟩ := bind_eq_ok.mp ht
    obtain ⟨u, hu, ht⟩ := bind_eq_ok.mp ht
    cases ht
    exact h.openGroup hu
  · obtain ⟨u, hu, ht⟩ := bind_eq_ok.mp ht
    cases ht
    exact h.closeGroup hu
  · cases ht
    refine ⟨by simp, List.forall_mem_cons.mpr ⟨?_, h.branches⟩, h.groups⟩
    exact countsOrdered_ofItems fun p hp => h.items p (List.mem_reverse.mp hp)
  · obtain ⟨⟨p, behind⟩, hp, ht⟩ := map_eq_ok.mp ht
    cases ht
    exact h.push (countsOrdered_scanBracket hp)
  · exact hrepetition (by simp) ht
  · exact hrepetition (by simp) ht
  · exact hrepetition (by simp) ht
  · obtain ⟨⟨⟨min, max⟩, behind⟩, hcounts, ht⟩ := bind_eq_ok.mp ht
    exact hrepetition (scanCounts_ordered hcounts) ht
  · obtain ⟨⟨p, behind⟩, hp, ht⟩ := map_eq_ok.mp ht
    cases ht
    exact h.push (countsOrdered_scanEscape hp)
  iterate 4
    cases ht
    exact h.push trivial

theorem Ordered.run (h : s.Ordered) {fuel : Nat} {text : List Char}
    (ht : s.run fuel text = .ok t) : t.Ordered := by
  induction fuel generalizing s text with
  | zero => cases ht; exact h
  | succ fuel ih =>
    simp only [Progress.run] at ht
    split at ht
    · cases ht
      exact h
    · split at ht
      · cases ht
      · next hstep => exact ih (h.step hstep) ht

end Progress

/-- The counts of a pattern that was read are ordered. -/
theorem countsOrdered_parse {text : String} {p : Pattern} (h : parse text = .ok p) :
    p.CountsOrdered := by
  unfold parse at h
  obtain ⟨s, hrun, h⟩ := bind_eq_ok.mp h
  have hordered : s.Ordered := Progress.Ordered.run ⟨by simp, by simp, by simp⟩ hrun
  split at h
  · cases h
  · split at h
    · cases h
    · cases h
      exact hordered.body

end Enrich.Pattern
