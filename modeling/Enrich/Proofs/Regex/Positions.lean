import Enrich.Regex.Positions
import Mathlib.Data.Rel
import Mathlib.Data.Set.Lattice

/-!
# Sets of positions as sets

The operations on sets of positions are read off through `toSet`. A step that takes every set within
the text to its image under a relation is iterated as the relation is: `toSet_afterExactly` for a
given number of rounds, `toSet_afterAtMost` for all numbers of rounds up to a bound, although the
iterations stop early and follow new positions only.
-/

namespace Enrich.Positions

open SetRel

/-- The positions that belong to a set. -/
def toSet (s : Positions) : Set Nat := {i | Nat.testBit s i = true}

theorem mem_toSet {s : Positions} {i : Nat} : i ∈ s.toSet ↔ Nat.testBit s i = true := Iff.rfl

/-! ## Operations -/

theorem toSet_zero : toSet 0 = ∅ := by
  ext i
  simp [mem_toSet]

theorem toSet_one : toSet 1 = {0} := by
  ext i
  simp [mem_toSet, Nat.testBit_one_eq_true_iff_self_eq_zero]

theorem toSet_or (s t : Positions) : toSet (s ||| t) = toSet s ∪ toSet t := by
  ext i
  simp [mem_toSet]

theorem toSet_and (s t : Positions) : toSet (s &&& t) = toSet s ∩ toSet t := by
  ext i
  simp [mem_toSet]

theorem toSet_without (s t : Positions) : (s.without t).toSet = s.toSet \ t.toSet := by
  ext i
  simp only [mem_toSet, without, Nat.testBit_xor, Nat.testBit_or, Set.mem_sdiff]
  cases Nat.testBit s i <;> cases Nat.testBit t i <;> decide

theorem mem_toSet_shiftLeft_one {s : Positions} {j : Nat} :
    j ∈ toSet (s <<< 1) ↔ ∃ i ∈ s.toSet, i + 1 = j := by
  simp only [mem_toSet, Nat.testBit_shiftLeft, Bool.and_eq_true, decide_eq_true_eq]
  constructor
  · rintro ⟨hj, hs⟩
    exact ⟨j - 1, hs, by omega⟩
  · rintro ⟨i, hs, rfl⟩
    exact ⟨by omega, hs⟩

theorem toSet_firsts (count : Nat) : (firsts count).toSet = Set.Iio count := by
  ext i
  simp [mem_toSet, firsts, Nat.shiftLeft_eq, Nat.testBit_two_pow_sub_one]

theorem mem_toSet_ofBits {bits : List Bool} {i : Nat} :
    i ∈ (ofBits bits).toSet ↔ bits[i]? = some true := by
  induction bits generalizing i with
  | nil => simp [ofBits, mem_toSet]
  | cons bit bits ih =>
    have hcons : ofBits (bit :: bits) = ofBits bits <<< 1 ||| bit.toNat := rfl
    rw [hcons, toSet_or, Set.mem_union, mem_toSet_shiftLeft_one]
    cases i with
    | zero => cases bit <;> simp [mem_toSet]
    | succ i =>
      have hbit : i + 1 ∉ toSet bit.toNat := by cases bit <;> simp [mem_toSet, Nat.testBit_succ]
      simp [hbit, ih]

/-! ## Rounds of a relation -/

/-- The pairs of positions between which a relation leads in exactly the given number of rounds. -/
def rounds (R : SetRel Nat Nat) : Nat → SetRel Nat Nat
  | 0 => SetRel.id
  | n + 1 => R ○ rounds R n

theorem image_rounds_zero (R : SetRel Nat Nat) (s : Set Nat) : (rounds R 0).image s = s :=
  image_id s

theorem image_rounds_succ (R : SetRel Nat Nat) (n : Nat) (s : Set Nat) :
    (rounds R (n + 1)).image s = (rounds R n).image (R.image s) :=
  image_comp R (rounds R n) s

theorem rounds_add (R : SetRel Nat Nat) (m n : Nat) :
    rounds R (m + n) = rounds R m ○ rounds R n := by
  induction m with
  | zero => rw [Nat.zero_add, rounds, id_comp]
  | succ m ih => rw [Nat.succ_add, rounds, rounds, ih, comp_assoc]

theorem image_rounds_add (R : SetRel Nat Nat) (m n : Nat) (s : Set Nat) :
    (rounds R (m + n)).image s = (rounds R n).image ((rounds R m).image s) := by
  rw [rounds_add, image_comp]

/-- The positions that at most `n` rounds from some of `s` lead to. -/
def within (R : SetRel Nat Nat) (n : Nat) (s : Set Nat) : Set Nat :=
  {j | ∃ k ≤ n, j ∈ (rounds R k).image s}

theorem within_zero (R : SetRel Nat Nat) (s : Set Nat) : within R 0 s = s := by
  ext j
  constructor
  · rintro ⟨k, hk, hj⟩
    rwa [Nat.le_zero.mp hk, image_rounds_zero] at hj
  · exact fun hj => ⟨0, Nat.le_refl 0, by rwa [image_rounds_zero]⟩

/-- A bound that is larger by one allows for a first round that is made or left out. -/
theorem within_succ (R : SetRel Nat Nat) (n : Nat) (s : Set Nat) :
    within R (n + 1) s = within R n (s ∪ R.image s) := by
  ext j
  constructor
  · rintro ⟨k, hk, hj⟩
    cases k with
    | zero =>
      rw [image_rounds_zero] at hj
      exact ⟨0, n.zero_le, by rw [image_rounds_zero]; exact .inl hj⟩
    | succ k =>
      rw [image_rounds_succ] at hj
      exact ⟨k, by omega, by rw [image_union]; exact .inr hj⟩
  · rintro ⟨k, hk, hj⟩
    rw [image_union] at hj
    rcases hj with hj | hj
    · exact ⟨k, by omega, hj⟩
    · exact ⟨k + 1, by omega, by rw [image_rounds_succ]; exact hj⟩

theorem within_of_closed {R : SetRel Nat Nat} {s : Set Nat} (h : R.image s ⊆ s) (n : Nat) :
    within R n s = s := by
  induction n with
  | zero => exact within_zero R s
  | succ n ih => rw [within_succ, Set.union_eq_self_of_subset_right h, ih]

/-! ## Iterated steps -/

section Iteration

/- `step` is the image under `R` on the positions below `N`, and `R` leads from none of them out of
them. -/
variable {R : SetRel Nat Nat} {N : Nat} {step : Positions → Positions}
  (hR : ∀ s ⊆ Set.Iio N, R.image s ⊆ Set.Iio N)
  (hstep : ∀ s : Positions, s.toSet ⊆ Set.Iio N → (step s).toSet = R.image s.toSet)

include hR hstep in
theorem toSet_afterExactly (n : Nat) {s : Positions} (hs : s.toSet ⊆ Set.Iio N) :
    (afterExactly step n s).toSet = (rounds R n).image s.toSet := by
  induction n generalizing s with
  | zero => rw [image_rounds_zero]; rfl
  | succ n ih =>
    rw [image_rounds_succ, ← hstep s hs]
    simp only [afterExactly]
    have hin : (step s).toSet ⊆ Set.Iio N := hstep s hs ▸ hR _ hs
    split
    · next hfix =>
      -- what a step does not change, no number of rounds does
      rw [hfix]
      have himage : R.image s.toSet = s.toSet := by rw [← hstep s hs, hfix]
      clear ih
      induction n with
      | zero => rw [image_rounds_zero]
      | succ n ih => rw [image_rounds_succ, himage, ← ih]
    · exact ih hin

include hR hstep in
/-- Only `latest` is followed: a round from an earlier position leads to what is reached or to where
a round from `latest` leads. -/
theorem toSet_afterAtMost (n : Nat) {reached latest : Positions}
    (hin : reached.toSet ⊆ Set.Iio N) (hlatest : latest.toSet ⊆ reached.toSet)
    (hedge : R.image reached.toSet ⊆ reached.toSet ∪ R.image latest.toSet) :
    (afterAtMost step n reached latest).toSet = within R n reached.toSet := by
  induction n generalizing reached latest with
  | zero => rw [within_zero]; rfl
  | succ n ih =>
    have hnew : ((step latest).without reached).toSet = R.image latest.toSet \ reached.toSet := by
      rw [toSet_without, hstep latest (hlatest.trans hin)]
    have hall : reached.toSet ∪ R.image latest.toSet = reached.toSet ∪ R.image reached.toSet :=
      (Set.union_subset_union_right _ (image_subset_image hlatest)).antisymm
        (Set.union_subset Set.subset_union_left hedge)
    simp only [afterAtMost]
    split
    · next hnone =>
      rw [hnone, toSet_zero] at hnew
      have hclosed : R.image reached.toSet ⊆ reached.toSet :=
        hedge.trans (Set.union_subset subset_rfl (Set.sdiff_eq_empty.mp hnew.symm))
      exact (within_of_closed hclosed (n + 1)).symm
    · have hnext : (reached ||| (step latest).without reached : Positions).toSet =
          reached.toSet ∪ R.image reached.toSet := by
        rw [toSet_or, hnew, Set.union_sdiff_self, hall]
      rw [within_succ, ← hnext]
      refine ih ?_ ?_ ?_
      · rw [hnext]
        exact Set.union_subset hin (hR _ hin)
      · rw [toSet_or]
        exact Set.subset_union_right
      · rw [toSet_or, image_union]
        refine Set.union_subset ?_ Set.subset_union_right
        rw [← toSet_or, hnext]
        exact fun j hj => .inl (.inr hj)

end Iteration

end Enrich.Positions
