import Enrich.Proofs.Regex.Positions
import Enrich.Regex.Matching
import Mathlib.Data.Finset.Card
import Mathlib.Data.Finset.Range
import Mathlib.Logic.Relation

/-!
# Following an expression through a text

The moves of an expression lead from positions to positions (`Moves.paths`), and following them from
a set of positions leads to the image of the set (`Moves.toSet_follow`).

What makes this work is what a trail knows. A trail on which the positions of `P` have been followed
gives, for further positions `s`, ends that together with the ends reached from `P` are all ends
reached from `P` and `s` (`Moves.follow_spec`): what is left out has been given before. The trail of
a repetition remembers a set that is closed under rounds, and the rounds of one repetition share
the trail of its body.
-/

namespace Enrich.Regex

open SetRel Positions

/-! ## Where moves lead -/

/-- The pairs of positions between which moves lead. -/
def Moves.paths : Moves → SetRel Nat Nat
  | stay at_ => {p | p.1 ∈ at_.toSet ∧ p.1 = p.2}
  | step at_ => {p | p.1 ∈ at_.toSet ∧ p.1 + 1 = p.2}
  | seq a b => a.paths ○ b.paths
  | alt a b => a.paths ∪ b.paths
  | plus a => {p | Relation.TransGen (fun i j => (i, j) ∈ a.paths) p.1 p.2}
  | rounds a min more => {p | ∃ n, min ≤ n ∧ n ≤ min + more ∧ p ∈ Positions.rounds a.paths n}

theorem Moves.mem_paths_stay {at_ : Positions} {i j : Nat} :
    (i, j) ∈ (stay at_).paths ↔ i ∈ at_.toSet ∧ i = j := Iff.rfl

theorem Moves.mem_paths_step {at_ : Positions} {i j : Nat} :
    (i, j) ∈ (step at_).paths ↔ i ∈ at_.toSet ∧ i + 1 = j := Iff.rfl

theorem Moves.mem_paths_plus {a : Moves} {i j : Nat} :
    (i, j) ∈ (plus a).paths ↔ Relation.TransGen (fun i j => (i, j) ∈ a.paths) i j := Iff.rfl

theorem Moves.mem_paths_rounds {a : Moves} {min more i j : Nat} :
    (i, j) ∈ (rounds a min more).paths ↔
      ∃ n, min ≤ n ∧ n ≤ min + more ∧ (i, j) ∈ Positions.rounds a.paths n := Iff.rfl

/-- Whether no move reads a character from beyond the first `count` positions. -/
def Moves.Within (count : Nat) : Moves → Prop
  | stay _ => True
  | step at_ => ∀ i ∈ at_.toSet, i + 1 < count
  | seq a b | alt a b => a.Within count ∧ b.Within count
  | plus a | rounds a _ _ => a.Within count

theorem image_paths_seq (a b : Moves) (s : Set Nat) :
    (Moves.seq a b).paths.image s = b.paths.image (a.paths.image s) :=
  image_comp a.paths b.paths s

theorem image_paths_alt (a b : Moves) (s : Set Nat) :
    (Moves.alt a b).paths.image s = a.paths.image s ∪ b.paths.image s := by
  ext j
  constructor
  · rintro ⟨i, hi, hij | hij⟩
    · exact .inl ⟨i, hi, hij⟩
    · exact .inr ⟨i, hi, hij⟩
  · rintro (⟨i, hi, hij⟩ | ⟨i, hi, hij⟩)
    · exact ⟨i, hi, .inl hij⟩
    · exact ⟨i, hi, .inr hij⟩

/-- A given number of rounds and up to `more` further ones. -/
theorem image_paths_rounds (a : Moves) (min more : Nat) (s : Set Nat) :
    (Moves.rounds a min more).paths.image s =
      Positions.within a.paths more ((Positions.rounds a.paths min).image s) := by
  ext j
  constructor
  · rintro ⟨i, hi, hij⟩
    obtain ⟨n, hmin, hmore, hij⟩ := Moves.mem_paths_rounds.mp hij
    refine ⟨n - min, by omega, ?_⟩
    rw [← image_rounds_add, show min + (n - min) = n by omega]
    exact ⟨i, hi, hij⟩
  · rintro ⟨k, hk, hj⟩
    rw [← image_rounds_add] at hj
    obtain ⟨i, hi, hij⟩ := hj
    exact ⟨i, hi, Moves.mem_paths_rounds.mpr ⟨min + k, by omega, by omega, hij⟩⟩

theorem image_rounds_subset {R : SetRel Nat Nat} {C : Set Nat} (h : R.image C ⊆ C) (n : Nat) :
    (Positions.rounds R n).image C ⊆ C := by
  induction n with
  | zero => rw [image_rounds_zero]
  | succ n ih => rw [image_rounds_succ]; exact (image_subset_image h).trans ih

theorem image_transGen_subset {R : SetRel Nat Nat} {C : Set Nat} (h : R.image C ⊆ C) {i j : Nat}
    (hi : i ∈ C) (hij : Relation.TransGen (fun i j => (i, j) ∈ R) i j) : j ∈ C := by
  induction hij with
  | single hab => exact h ⟨_, hi, hab⟩
  | tail _ hbc ih => exact h ⟨_, ih, hbc⟩

/-- Moves within a text lead from none of its positions out of it. -/
theorem Moves.Within.image_subset {count : Nat} {m : Moves} (h : m.Within count) :
    ∀ s ⊆ Set.Iio count, m.paths.image s ⊆ Set.Iio count := by
  have hmono : ∀ m : Moves, m.paths.image (Set.Iio count) ⊆ Set.Iio count →
      ∀ s ⊆ Set.Iio count, m.paths.image s ⊆ Set.Iio count :=
    fun m hm s hs => (image_subset_image hs).trans hm
  apply hmono
  induction m with
  | stay at_ =>
    rintro j ⟨i, hi, hij⟩
    obtain ⟨-, rfl⟩ := mem_paths_stay.mp hij
    exact hi
  | step at_ =>
    rintro j ⟨i, -, hij⟩
    obtain ⟨hat, rfl⟩ := mem_paths_step.mp hij
    exact h i hat
  | seq a b iha ihb =>
    rw [image_paths_seq]
    exact hmono b (ihb h.2) _ (iha h.1)
  | alt a b iha ihb =>
    rw [image_paths_alt]
    exact Set.union_subset (iha h.1) (ihb h.2)
  | plus a iha =>
    rintro j ⟨i, hi, hij⟩
    exact image_transGen_subset (iha h) hi hij
  | rounds a min more iha =>
    rintro j ⟨i, hi, n, -, -, hij⟩
    exact image_rounds_subset (iha h) n ⟨i, hi, hij⟩

/-! ## Closed sets -/

/-- The positions that any number of rounds from some of `s` lead to. -/
def closure (R : SetRel Nat Nat) (s : Set Nat) : Set Nat :=
  {j | ∃ i ∈ s, Relation.ReflTransGen (fun i j => (i, j) ∈ R) i j}

theorem subset_closure (R : SetRel Nat Nat) (s : Set Nat) : s ⊆ closure R s :=
  fun i hi => ⟨i, hi, .refl⟩

theorem image_closure_subset (R : SetRel Nat Nat) (s : Set Nat) :
    R.image (closure R s) ⊆ closure R s := by
  rintro k ⟨j, ⟨i, hi, hij⟩, hjk⟩
  exact ⟨i, hi, hij.tail hjk⟩

theorem closure_subset {R : SetRel Nat Nat} {s C : Set Nat} (hs : s ⊆ C) (hC : R.image C ⊆ C) :
    closure R s ⊆ C := by
  rintro j ⟨i, hi, hij⟩
  induction hij with
  | refl => exact hs hi
  | tail _ hbc ih => exact hC ⟨_, ih, hbc⟩

/-- A round from `s` adds nothing to what any number of rounds lead to. -/
theorem closure_union_of_subset_image {R : SetRel Nat Nat} {s t : Set Nat} (h : t ⊆ R.image s) :
    closure R (s ∪ t) = closure R s := by
  refine (closure_subset (Set.union_subset (subset_closure R s) ?_)
    (image_closure_subset R s)).antisymm ?_
  · exact (h.trans (image_subset_image (subset_closure R s))).trans (image_closure_subset R s)
  · exact closure_subset (Set.subset_union_left.trans (subset_closure R _))
      (image_closure_subset R _)

theorem closure_union_closure (R : SetRel Nat Nat) (s t : Set Nat) :
    closure R (closure R s ∪ t) = closure R (s ∪ t) := by
  have hs : closure R s ⊆ closure R (s ∪ t) :=
    closure_subset (Set.subset_union_left.trans (subset_closure R _)) (image_closure_subset R _)
  have ht : t ⊆ closure R (s ∪ t) := Set.subset_union_right.trans (subset_closure R _)
  refine (closure_subset (Set.union_subset hs ht) (image_closure_subset R _)).antisymm ?_
  refine closure_subset (fun i hi => subset_closure R _ ?_) (image_closure_subset R _)
  exact hi.imp_left fun h => subset_closure R s h

theorem closure_empty (R : SetRel Nat Nat) : closure R ∅ = ∅ := by
  ext j
  simp [closure]

/-- One round or more from `s` are one round from where any number of rounds from `s` lead. -/
theorem image_paths_plus (a : Moves) (s : Set Nat) :
    (Moves.plus a).paths.image s = a.paths.image (closure a.paths s) := by
  ext k
  constructor
  · rintro ⟨i, hi, hik⟩
    obtain ⟨j, hij, hjk⟩ := Relation.TransGen.tail'_iff.mp hik
    exact ⟨j, ⟨i, hi, hij⟩, hjk⟩
  · rintro ⟨j, ⟨i, hi, hij⟩, hjk⟩
    exact ⟨i, hi, Relation.TransGen.tail' hij hjk⟩

/-! ## Rounds of a repetition without a bound -/

section Rounds

/- `round` is the image under `R`, up to what a trail on which `P` was followed has given before. -/
variable {R : SetRel Nat Nat} {count : Nat} {Followed : Trail → Set Nat → Prop}
  {round : Trail → Positions → Positions × Trail}
  (hR : ∀ s ⊆ Set.Iio count, R.image s ⊆ Set.Iio count)
  (hround : ∀ (t : Trail) (P : Set Nat) (s : Positions), Followed t P → P ⊆ Set.Iio count →
    s.toSet ⊆ Set.Iio count → Followed (round t s).2 (P ∪ s.toSet) ∧
      (round t s).1.toSet ∪ R.image P = R.image (P ∪ s.toSet))

/-- The number of positions of the text that belong to a set. -/
def sizeBelow (count : Nat) (s : Positions) : Nat :=
  ((Finset.range count).filter fun i => Nat.testBit s i = true).card

theorem sizeBelow_le (count : Nat) (s : Positions) : sizeBelow count s ≤ count :=
  (Finset.card_filter_le _ _).trans (Finset.card_range count).le

theorem sizeBelow_lt {count : Nat} {s t : Positions} (ht : t.toSet ⊆ Set.Iio count) (hne : t ≠ 0)
    (hnew : ∀ i ∈ t.toSet, i ∉ s.toSet) : sizeBelow count s < sizeBelow count (s ||| t) := by
  obtain ⟨i, hi⟩ := Nat.exists_testBit_of_ne_zero hne
  refine Finset.card_lt_card (Finset.ssubset_iff_of_subset ?_ |>.mpr ⟨i, ?_, ?_⟩)
  · intro j hj
    rw [Finset.mem_filter] at hj ⊢
    exact ⟨hj.1, by rw [Nat.testBit_or, hj.2, Bool.true_or]⟩
  · rw [Finset.mem_filter, Finset.mem_range]
    exact ⟨ht hi, by rw [Nat.testBit_or, hi, Bool.or_true]⟩
  · rw [Finset.mem_filter]
    exact fun hs => hnew i hi hs.2

/-- What holds while rounds are followed: the trail has followed what is `seen`, a round from there
leads to what is seen or latest, and the ends, with those in `given`, are the ends of rounds from
there. -/
structure RoundsInv (R : SetRel Nat Nat) (count : Nat) (Followed : Trail → Set Nat → Prop)
    (given : Set Nat) (ends seen : Positions) (trail : Trail) (latest : Positions) : Prop where
  followed : Followed trail seen.toSet
  seen_lt : seen.toSet ⊆ Set.Iio count
  latest_lt : latest.toSet ⊆ Set.Iio count
  image_seen : R.image seen.toSet ⊆ seen.toSet ∪ latest.toSet
  ends_eq : ends.toSet ∪ given = R.image seen.toSet

theorem RoundsInv.new_lt {given : Set Nat} {ends seen latest : Positions} {trail : Trail}
    (h : RoundsInv R count Followed given ends seen trail latest) :
    (latest.without seen).toSet ⊆ Set.Iio count := by
  rw [toSet_without]
  exact Set.sdiff_subset.trans h.latest_lt

include hR hround in
/-- One more round from what is new keeps the invariant. -/
theorem RoundsInv.next {given : Set Nat} {ends seen latest : Positions} {trail : Trail}
    (h : RoundsInv R count Followed given ends seen trail latest) :
    let out := round trail (latest.without seen)
    RoundsInv R count Followed given (ends ||| out.1) (seen ||| latest.without seen) out.2
      out.1 := by
  intro out
  obtain ⟨hfollowed, hends⟩ :=
    hround trail seen.toSet (latest.without seen) h.followed h.seen_lt h.new_lt
  have hseen : (seen ||| latest.without seen : Positions).toSet ⊆ Set.Iio count := by
    rw [toSet_or]
    exact Set.union_subset h.seen_lt h.new_lt
  rw [← toSet_or] at hfollowed hends
  have hout : out.1.toSet ⊆ R.image (seen ||| latest.without seen : Positions).toSet :=
    hends ▸ Set.subset_union_left
  refine ⟨hfollowed, hseen, hout.trans (hR _ hseen), ?_, ?_⟩
  · rw [← hends]
    refine Set.union_subset Set.subset_union_right (h.image_seen.trans ?_)
    rw [toSet_or, toSet_without, Set.union_sdiff_self]
    exact Set.subset_union_left
  · rw [← hends, toSet_or, ← h.ends_eq, Set.union_right_comm, Set.union_comm, ← Set.union_assoc]

include hR hround in
/-- The fuel suffices: each round but the last one meets a position of the text for the first
time. -/
theorem followRounds_spec (fuel : Nat) {given : Set Nat} {ends seen latest : Positions}
    {trail : Trail} (h : RoundsInv R count Followed given ends seen trail latest)
    (hfuel : count < fuel + sizeBelow count seen) :
    let out := followRounds round fuel ends seen trail latest
    Followed out.2.2 out.2.1.toSet ∧ out.2.1.toSet = closure R (seen.toSet ∪ latest.toSet) ∧
      out.1.toSet ∪ given = R.image out.2.1.toSet := by
  induction fuel generalizing ends seen trail latest with
  | zero =>
    have := sizeBelow_le count seen
    omega
  | succ fuel ih =>
    have hunion : (seen ||| latest.without seen : Positions).toSet = seen.toSet ∪ latest.toSet := by
      rw [toSet_or, toSet_without, Set.union_sdiff_self]
    simp only [followRounds]
    split
    · next hnone =>
      have hsub : latest.toSet ⊆ seen.toSet := by
        rw [← Set.sdiff_eq_empty, ← toSet_without, hnone, toSet_zero]
      have himage : R.image seen.toSet ⊆ seen.toSet :=
        h.image_seen.trans (Set.union_subset subset_rfl hsub)
      rw [Set.union_eq_self_of_subset_right hsub]
      exact ⟨h.followed, (subset_closure R _).antisymm (closure_subset subset_rfl himage),
        h.ends_eq⟩
    · next hsome =>
      have hnext := h.next hR hround
      have hunseen : ∀ i ∈ (latest.without seen).toSet, i ∉ seen.toSet := by
        intro i hi
        rw [toSet_without] at hi
        exact hi.2
      have hlt := sizeBelow_lt h.new_lt hsome hunseen
      obtain ⟨hfollowed, hseen, hends⟩ := ih hnext (by omega)
      refine ⟨hfollowed, hseen.trans ?_, hends⟩
      rw [closure_union_of_subset_image, hunion]
      have hreached :=
        (hround trail seen.toSet (latest.without seen) h.followed h.seen_lt h.new_lt).2
      rw [toSet_or, ← hreached]
      exact Set.subset_union_left

end Rounds

/-! ## Following -/

/-- Whether a trail is one on which the positions of `P` have been followed. -/
def Moves.Followed : Moves → Trail → Set Nat → Prop
  | stay _, _, _ | step _, _, _ | rounds _ _ _, _, _ => True
  | seq a b, t, P => a.Followed t.left P ∧ b.Followed t.right (a.paths.image P)
  | alt a b, t, P => a.Followed t.left P ∧ b.Followed t.right P
  | plus a, t, P => t.seen.toSet = closure a.paths P ∧ a.Followed t.left t.seen.toSet

/-- Nothing has been followed on the empty trail. -/
theorem Moves.followed_none (m : Moves) : m.Followed .none ∅ := by
  induction m with
  | stay _ | step _ | rounds _ _ _ _ => trivial
  | seq a b iha ihb => exact ⟨iha, by rw [image_empty_right]; exact ihb⟩
  | alt a b iha ihb => exact ⟨iha, ihb⟩
  | plus a iha =>
    have hseen : Trail.none.seen.toSet = ∅ := toSet_zero
    exact ⟨hseen.trans (closure_empty _).symm, by rw [hseen]; exact iha⟩

/-- Moves that take `s` to its image whatever the trail gives no less than it has to. -/
theorem union_image_of_eq {R : SetRel Nat Nat} {P s ends : Set Nat} (h : ends = R.image s) :
    ends ∪ R.image P = R.image (P ∪ s) := by
  rw [h, image_union, Set.union_comm]

/-- Where nothing was followed before, nothing has been given before. -/
theorem eq_image_of_union {R : SetRel Nat Nat} {s ends : Set Nat}
    (h : ends ∪ R.image ∅ = R.image (∅ ∪ s)) : ends = R.image s := by
  rwa [image_empty_right, Set.union_empty, Set.empty_union] at h

theorem toSet_follow_stay (count : Nat) (at_ : Positions) (t : Trail) (s : Positions) :
    ((Moves.stay at_).follow count t s).1.toSet = (Moves.stay at_).paths.image s.toSet := by
  ext j
  simp only [Moves.follow, toSet_and, Set.mem_inter_iff, mem_image, Moves.mem_paths_stay]
  constructor
  · rintro ⟨hs, hat⟩
    exact ⟨j, hs, hat, rfl⟩
  · rintro ⟨i, hs, hat, rfl⟩
    exact ⟨hs, hat⟩

theorem toSet_follow_step (count : Nat) (at_ : Positions) (t : Trail) (s : Positions) :
    ((Moves.step at_).follow count t s).1.toSet = (Moves.step at_).paths.image s.toSet := by
  ext j
  simp only [Moves.follow, mem_toSet_shiftLeft_one, toSet_and, Set.mem_inter_iff, mem_image,
    Moves.mem_paths_step, and_assoc]

/-- **Following on a trail.** After `P` has been followed, following `s` gives ends that together
with those of `P` are all ends of both, and a trail on which both have been followed. -/
theorem Moves.follow_spec {count : Nat} {m : Moves} (hm : m.Within count) {t : Trail} {P : Set Nat}
    {s : Positions} (ht : m.Followed t P) (hP : P ⊆ Set.Iio count) (hs : s.toSet ⊆ Set.Iio count) :
    m.Followed (m.follow count t s).2 (P ∪ s.toSet) ∧
      (m.follow count t s).1.toSet ∪ m.paths.image P = m.paths.image (P ∪ s.toSet) := by
  induction m generalizing t P s with
  | stay at_ => exact ⟨trivial, union_image_of_eq (toSet_follow_stay count at_ t s)⟩
  | step at_ => exact ⟨trivial, union_image_of_eq (toSet_follow_step count at_ t s)⟩
  | seq a b iha ihb =>
    obtain ⟨hleft, hmiddle⟩ := iha hm.1 ht.1 hP hs
    have hPa := hm.1.image_subset P hP
    have hall := hm.1.image_subset _ (Set.union_subset hP hs)
    have hmiddle_lt : (a.follow count t.left s).1.toSet ⊆ Set.Iio count :=
      (hmiddle ▸ Set.subset_union_left).trans hall
    obtain ⟨hright, hends⟩ := ihb hm.2 ht.2 hPa hmiddle_lt
    have hmiddle' : a.paths.image P ∪ (a.follow count t.left s).1.toSet =
        a.paths.image (P ∪ s.toSet) := by rw [Set.union_comm, hmiddle]
    rw [hmiddle'] at hright hends
    refine ⟨⟨hleft, hright⟩, ?_⟩
    rw [image_paths_seq, image_paths_seq]
    exact hends
  | alt a b iha ihb =>
    obtain ⟨hleft, hends⟩ := iha hm.1 ht.1 hP hs
    obtain ⟨hright, hothers⟩ := ihb hm.2 ht.2 hP hs
    refine ⟨⟨hleft, hright⟩, ?_⟩
    rw [image_paths_alt, image_paths_alt, ← hends, ← hothers]
    simp only [follow, toSet_or]
    exact Set.union_union_union_comm _ _ _ _
  | plus a iha =>
    have ha : a.Within count := hm
    have hseen : t.seen.toSet ⊆ Set.Iio count := by
      rw [ht.1]
      exact closure_subset hP (ha.image_subset _ subset_rfl)
    have hstart :
        RoundsInv a.paths count a.Followed (a.paths.image t.seen.toSet) 0 t.seen t.left s :=
      ⟨ht.2, hseen, hs, by
        rw [ht.1]
        exact (image_closure_subset _ _).trans Set.subset_union_left,
        by rw [toSet_zero, Set.empty_union]⟩
    obtain ⟨hfollowed, hclosed, hends⟩ :=
      followRounds_spec ha.image_subset (fun _ _ _ => iha ha) (count + 1) hstart (by omega)
    rw [ht.1, closure_union_closure] at hclosed
    refine ⟨⟨hclosed, hfollowed⟩, ?_⟩
    rw [image_paths_plus, image_paths_plus, ← ht.1, ← hclosed]
    exact hends
  | rounds a min more iha =>
    have ha : a.Within count := hm
    refine ⟨trivial, union_image_of_eq ?_⟩
    have hround : ∀ s : Positions, s.toSet ⊆ Set.Iio count →
        (a.follow count .none s).1.toSet = a.paths.image s.toSet := fun s hs =>
      eq_image_of_union (iha ha a.followed_none (Set.empty_subset _) hs).2
    have hmin := toSet_afterExactly ha.image_subset hround min hs
    have hmin_lt : (afterExactly (fun s => (a.follow count .none s).1) min s).toSet ⊆
        Set.Iio count := by
      rw [hmin]
      exact (image_subset_image hs).trans (image_rounds_subset (ha.image_subset _ subset_rfl) min)
    rw [image_paths_rounds, ← hmin]
    exact toSet_afterAtMost ha.image_subset hround more hmin_lt subset_rfl Set.subset_union_right

/-- Following from a set, with nothing followed before, leads to its image. -/
theorem Moves.toSet_follow {count : Nat} {m : Moves} (hm : m.Within count) {s : Positions}
    (hs : s.toSet ⊆ Set.Iio count) :
    (m.follow count .none s).1.toSet = m.paths.image s.toSet :=
  eq_image_of_union (follow_spec hm m.followed_none (Set.empty_subset _) hs).2

end Enrich.Regex
