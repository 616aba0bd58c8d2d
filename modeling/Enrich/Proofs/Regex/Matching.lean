import Enrich.Proofs.Regex.Following

/-!
# Matching is the meaning

`matchesWhole_iff`: the matcher accepts a text exactly when the expression matches the whole of it.
A reading is laid over a text as a relation between positions (`Reading.over`), on which composition
of readings is composition of relations, and the moves of an expression lead just where its meaning
does (`mem_paths_moves_iff`).
-/

namespace Enrich.Regex

open SetRel Positions

/-! ## Readings of the pieces of a text -/

/-- The pairs of positions of a text whose piece between them is read, with the characters around it
as its neighbours. -/
def Reading.over (m : Reading) (text : List Char) : SetRel Nat Nat :=
  {p | ∃ u w x, text = u ++ (w ++ x) ∧ u.length = p.1 ∧ p.1 + w.length = p.2 ∧
    m u.getLast? w x.head?}

theorem Reading.mem_over {m : Reading} {text : List Char} {i j : Nat} :
    (i, j) ∈ m.over text ↔ ∃ u w x, text = u ++ (w ++ x) ∧ u.length = i ∧ i + w.length = j ∧
      m u.getLast? w x.head? := Iff.rfl

theorem Reading.le_length_of_mem_over {m : Reading} {text : List Char} {i j : Nat}
    (h : (i, j) ∈ m.over text) : j ≤ text.length := by
  obtain ⟨u, w, x, rfl, rfl, rfl, -⟩ := mem_over.mp h
  simp only [List.length_append]
  omega

/-- One reading after another is laid over a text as one relation after the other. -/
theorem Reading.over_then (m n : Reading) (text : List Char) :
    (m.Then n).over text = m.over text ○ n.over text := by
  ext ⟨i, j⟩
  constructor
  · intro hij
    obtain ⟨u, w, x, rfl, rfl, rfl, s, t, rfl, hm, hn⟩ := mem_over.mp hij
    refine ⟨u.length + s.length, ⟨u, s, t ++ x, ?_, rfl, rfl, ?_⟩, ⟨u ++ s, t, x, ?_, ?_, ?_, ?_⟩⟩
    · simp only [List.append_assoc]
    · rw [List.head?_append]
      exact hm
    · simp only [List.append_assoc]
    · exact List.length_append
    · simp only [List.length_append]
      omega
    · rw [List.getLast?_append]
      exact hn
  · rintro ⟨k, hik, hkj⟩
    obtain ⟨u, s, y, htext, rfl, rfl, hm⟩ := mem_over.mp hik
    obtain ⟨v, t, x, htext', hv, rfl, hn⟩ := mem_over.mp hkj
    have hsplit : u ++ s ++ y = v ++ (t ++ x) := by rw [List.append_assoc, ← htext, htext']
    have hlength : (u ++ s).length = v.length := by rw [List.length_append]; exact hv.symm
    obtain ⟨rfl, rfl⟩ := List.append_inj hsplit hlength
    refine ⟨u, s ++ t, x, ?_, rfl, ?_, s, t, rfl, ?_, ?_⟩
    · rw [htext, List.append_assoc]
    · simp only [List.length_append]
      omega
    · rw [← List.head?_append]
      exact hm
    · rw [← List.getLast?_append]
      exact hn

theorem Reading.mem_over_nil {text : List Char} {i j : Nat} :
    (i, j) ∈ Reading.over (fun _ text _ => text = []) text ↔ i ≤ text.length ∧ i = j := by
  constructor
  · intro hij
    obtain ⟨u, w, x, rfl, rfl, rfl, rfl⟩ := mem_over.mp hij
    exact ⟨by simp, rfl⟩
  · rintro ⟨hi, rfl⟩
    exact ⟨text.take i, [], text.drop i, (List.take_append_drop i text).symm, by simpa, rfl, rfl⟩

/-! ## Bits of a text -/

theorem getElem?_along (a : Assertion) (b : Option Char) (u x : List Char) :
    (a.along b (u ++ x))[u.length]? = some (a.holds (u.getLast?.or b) x.head?) := by
  induction u generalizing b with
  | nil => cases x <;> rfl
  | cons c u ih =>
    have hlast : ((c :: u).getLast?.or b) = u.getLast?.or (some c) := by
      rw [List.getLast?_cons]
      cases u.getLast? <;> rfl
    rw [hlast, ← ih]
    rfl

theorem length_along (a : Assertion) (b : Option Char) (text : List Char) :
    (a.along b text).length = text.length + 1 := by
  induction text generalizing b with
  | nil => rfl
  | cons c text ih => simp [Assertion.along, ih]

/-- The bits of an assertion tell where it holds. -/
theorem mem_ofBits_along_iff {a : Assertion} {text : List Char} {i : Nat} :
    i ∈ (ofBits (a.along none text)).toSet ↔
      (i, i) ∈ Reading.over (Matches (.look a)) text := by
  rw [mem_toSet_ofBits]
  constructor
  · intro hbit
    have hi : i ≤ text.length := by
      obtain ⟨hlt, -⟩ := List.getElem?_eq_some_iff.mp hbit
      rw [length_along] at hlt
      omega
    refine ⟨text.take i, [], text.drop i, (List.take_append_drop i text).symm, by simpa, rfl, rfl,
      ?_⟩
    have hholds := getElem?_along a none (text.take i) (text.drop i)
    rw [List.take_append_drop, List.length_take_of_le hi, hbit, Option.or_none] at hholds
    exact (Option.some.inj hholds).symm
  · rintro ⟨u, w, x, rfl, rfl, -, rfl, hholds⟩
    rw [List.nil_append, getElem?_along, Option.or_none, hholds]

/-- The bits of a set tell which characters belong to it. -/
theorem mem_ofBits_map_iff {s : CharSet} {text : List Char} {i : Nat} :
    i ∈ (ofBits (text.map s.contains)).toSet ↔
      (i, i + 1) ∈ Reading.over (Matches (.set s)) text := by
  rw [mem_toSet_ofBits, List.getElem?_map, Option.map_eq_some_iff]
  constructor
  · rintro ⟨c, hc, hs⟩
    obtain ⟨hi, rfl⟩ := List.getElem?_eq_some_iff.mp hc
    refine ⟨text.take i, [text[i]], text.drop (i + 1), ?_, by simp; omega, rfl, text[i], rfl, hs⟩
    simp
  · rintro ⟨u, w, x, rfl, rfl, -, c, rfl, hs⟩
    exact ⟨c, by simp, hs⟩

/-! ## Rounds -/

/-- Relations that are readings on the positions of a text are composed as the readings are. -/
theorem mem_comp_iff {R S : SetRel Nat Nat} {m n : Reading} {text : List Char}
    (hR : ∀ i ≤ text.length, ∀ j, (i, j) ∈ R ↔ (i, j) ∈ m.over text)
    (hS : ∀ i ≤ text.length, ∀ j, (i, j) ∈ S ↔ (i, j) ∈ n.over text) :
    ∀ i ≤ text.length, ∀ j, (i, j) ∈ R ○ S ↔ (i, j) ∈ (m.Then n).over text := by
  intro i hi j
  rw [Reading.over_then]
  constructor
  · rintro ⟨k, hik, hkj⟩
    have hik := (hR i hi k).mp hik
    exact ⟨k, hik, (hS k (Reading.le_length_of_mem_over hik) j).mp hkj⟩
  · rintro ⟨k, hik, hkj⟩
    exact ⟨k, (hR i hi k).mpr hik, (hS k (Reading.le_length_of_mem_over hik) j).mpr hkj⟩

/-- A relation that is a reading on the positions of a text is iterated as the reading is. -/
theorem mem_rounds_iff {R : SetRel Nat Nat} {m : Reading} {text : List Char}
    (h : ∀ i ≤ text.length, ∀ j, (i, j) ∈ R ↔ (i, j) ∈ m.over text) (n : Nat) :
    ∀ i ≤ text.length, ∀ j, (i, j) ∈ Positions.rounds R n ↔ (i, j) ∈ (m.Rounds n).over text := by
  induction n with
  | zero =>
    intro i hi j
    rw [Reading.Rounds, Reading.mem_over_nil]
    exact ⟨fun hij => ⟨hi, hij⟩, fun hij => hij.2⟩
  | succ n ih => exact mem_comp_iff h ih

/-- One round or more. -/
theorem transGen_iff_exists_rounds {R : SetRel Nat Nat} {i j : Nat} :
    Relation.TransGen (fun i j => (i, j) ∈ R) i j ↔ ∃ n, (i, j) ∈ Positions.rounds R (n + 1) := by
  constructor
  · intro hij
    induction hij using Relation.TransGen.head_induction_on with
    | single hij => exact ⟨0, _, hij, rfl⟩
    | head hik _ ih =>
      obtain ⟨n, hkj⟩ := ih
      exact ⟨n + 1, _, hik, hkj⟩
  · rintro ⟨n, hij⟩
    induction n generalizing i with
    | zero =>
      obtain ⟨k, hik, rfl⟩ := hij
      exact .single hik
    | succ n ih =>
      obtain ⟨k, hik, hkj⟩ := hij
      exact .head hik (ih hkj)

/-! ## Where the moves of an expression lead -/

/-- The moves of a repetition take one of four shapes. -/
theorem moves_rep_cases {P : Option Nat → Nat → Moves → Prop} (text : List Char) (a : Regex)
    (optional : P (some 1) 0 (.alt (a.moves text) (.stay (.firsts (text.length + 1)))))
    (bounded : ∀ min more, P (some more) min (.rounds (a.moves text) min more))
    (star : P none 0 (.alt (.plus (a.moves text)) (.stay (.firsts (text.length + 1)))))
    (plus : P none 1 (.plus (a.moves text)))
    (more : ∀ min, 0 < min →
      P none (min + 1) (.seq (.rounds (a.moves text) min 0) (.plus (a.moves text))))
    (min : Nat) (bound : Option Nat) : P bound min ((rep a min bound).moves text) := by
  cases bound with
  | none =>
    cases min with
    | zero => exact star
    | succ min =>
      rw [moves]
      split
      · next hmin => exact hmin ▸ plus
      · next hmin => exact more min (Nat.pos_of_ne_zero hmin)
  | some count =>
    by_cases hone : min = 0 ∧ count = 1
    · obtain ⟨rfl, rfl⟩ := hone
      exact optional
    · rw [moves]
      · exact bounded min count
      · exact fun hmin hcount => hone ⟨hmin, hcount⟩

theorem within_moves (text : List Char) (r : Regex) : (r.moves text).Within (text.length + 1) := by
  induction r with
  | empty | look _ => trivial
  | set s =>
    intro i hi
    obtain ⟨hlt, -⟩ := List.getElem?_eq_some_iff.mp (mem_toSet_ofBits.mp hi)
    rw [List.length_map] at hlt
    omega
  | seq a b iha ihb => exact ⟨iha, ihb⟩
  | alt a b iha ihb => exact ⟨iha, ihb⟩
  | group _ a iha => exact iha
  | rep a min more iha =>
    exact moves_rep_cases (P := fun _ _ m => m.Within (text.length + 1)) text a ⟨iha, trivial⟩
      (fun _ _ => iha) ⟨iha, trivial⟩ iha (fun _ _ => ⟨iha, iha⟩) min more

theorem mem_rounds_one {R : SetRel Nat Nat} {i j : Nat} :
    (i, j) ∈ Positions.rounds R 1 ↔ (i, j) ∈ R := by
  constructor
  · rintro ⟨k, hik, rfl⟩
    exact hik
  · exact fun hij => ⟨j, hij, rfl⟩

theorem mem_paths_stay_firsts {count i j : Nat} (hi : i < count) :
    (i, j) ∈ (Moves.stay (.firsts count)).paths ↔ i = j := by
  rw [Moves.mem_paths_stay, toSet_firsts]
  exact and_iff_right hi

/-- The moves of a repetition make a number of rounds that lies within its bounds. -/
theorem mem_paths_moves_rep {text : List Char} {a : Regex} {min : Nat} {more : Option Nat}
    {i j : Nat} (hi : i ≤ text.length) :
    (i, j) ∈ ((rep a min more).moves text).paths ↔
      ∃ n, min ≤ n ∧ (∀ m, more = some m → n ≤ min + m) ∧
        (i, j) ∈ Positions.rounds (a.moves text).paths n := by
  have hlt : i < text.length + 1 := Nat.lt_succ_of_le hi
  refine moves_rep_cases (P := fun more min m => (i, j) ∈ m.paths ↔
    ∃ n, min ≤ n ∧ (∀ m, more = some m → n ≤ min + m) ∧
      (i, j) ∈ Positions.rounds (a.moves text).paths n) text a ?_ ?_ ?_ ?_ ?_ min more
  · constructor
    · rintro (hij | hij)
      · exact ⟨1, by omega, by simp, mem_rounds_one.mpr hij⟩
      · exact ⟨0, by omega, by simp, (mem_paths_stay_firsts hlt).mp hij⟩
    · rintro ⟨n, -, hn, hij⟩
      have hn := hn 1 rfl
      rcases n with _ | _ | n
      · exact .inr ((mem_paths_stay_firsts hlt).mpr hij)
      · exact .inl (mem_rounds_one.mp hij)
      · omega
  · intro min more
    rw [Moves.mem_paths_rounds]
    constructor
    · rintro ⟨n, hmin, hmore, hij⟩
      exact ⟨n, hmin, fun m hm => Option.some.inj hm ▸ hmore, hij⟩
    · rintro ⟨n, hmin, hmore, hij⟩
      exact ⟨n, hmin, hmore more rfl, hij⟩
  · constructor
    · rintro (hij | hij)
      · obtain ⟨n, hij⟩ := transGen_iff_exists_rounds.mp (Moves.mem_paths_plus.mp hij)
        exact ⟨n + 1, by omega, by simp, hij⟩
      · exact ⟨0, by omega, by simp, (mem_paths_stay_firsts hlt).mp hij⟩
    · rintro ⟨n, -, -, hij⟩
      cases n with
      | zero => exact .inr ((mem_paths_stay_firsts hlt).mpr hij)
      | succ n => exact .inl (transGen_iff_exists_rounds.mpr ⟨n, hij⟩)
  · rw [Moves.mem_paths_plus, transGen_iff_exists_rounds]
    constructor
    · rintro ⟨n, hij⟩
      exact ⟨n + 1, by omega, by simp, hij⟩
    · rintro ⟨n, hmin, -, hij⟩
      obtain ⟨n, rfl⟩ := Nat.exists_eq_add_of_le' hmin
      exact ⟨n, hij⟩
  · intro min hmin
    constructor
    · rintro ⟨k, hik, hkj⟩
      obtain ⟨m, hle, hge, hfirst⟩ := Moves.mem_paths_rounds.mp hik
      obtain rfl : m = min := by omega
      obtain ⟨n, hlast⟩ := transGen_iff_exists_rounds.mp (Moves.mem_paths_plus.mp hkj)
      exact ⟨m + (n + 1), by omega, by simp, by rw [rounds_add]; exact ⟨k, hfirst, hlast⟩⟩
    · rintro ⟨n, hle, -, hij⟩
      obtain ⟨n, rfl⟩ : ∃ k, n = min + (k + 1) := ⟨n - min - 1, by omega⟩
      rw [rounds_add] at hij
      obtain ⟨k, hik, hkj⟩ := hij
      exact ⟨k, Moves.mem_paths_rounds.mpr ⟨min, le_rfl, le_rfl, hik⟩,
        Moves.mem_paths_plus.mpr (transGen_iff_exists_rounds.mpr ⟨n, hkj⟩)⟩

theorem mem_paths_moves_iff (text : List Char) (r : Regex) :
    ∀ i ≤ text.length, ∀ j, (i, j) ∈ (r.moves text).paths ↔ (i, j) ∈ r.Matches.over text := by
  induction r with
  | empty =>
    intro i hi j
    rw [moves, Moves.mem_paths_stay, toSet_firsts, Matches, Reading.mem_over_nil, Set.mem_Iio,
      Nat.lt_succ_iff]
  | set s =>
    intro i hi j
    rw [moves, Moves.mem_paths_step, mem_ofBits_map_iff]
    constructor
    · rintro ⟨hij, rfl⟩
      exact hij
    · intro hij
      have hlength : i + 1 = j := by
        obtain ⟨u, w, x, -, -, rfl, c, rfl, -⟩ := Reading.mem_over.mp hij
        rfl
      exact ⟨hlength ▸ hij, hlength⟩
  | look a =>
    intro i hi j
    rw [moves, Moves.mem_paths_stay, mem_ofBits_along_iff]
    constructor
    · rintro ⟨hij, rfl⟩
      exact hij
    · intro hij
      have hlength : i = j := by
        obtain ⟨u, w, x, -, -, rfl, rfl, -⟩ := Reading.mem_over.mp hij
        rfl
      exact ⟨hlength ▸ hij, hlength⟩
  | seq a b iha ihb => exact mem_comp_iff iha ihb
  | alt a b iha ihb =>
    intro i hi j
    have hor : (i, j) ∈ ((alt a b).moves text).paths ↔
        (i, j) ∈ (a.moves text).paths ∨ (i, j) ∈ (b.moves text).paths := Iff.rfl
    rw [hor, iha i hi j, ihb i hi j, Reading.mem_over, Reading.mem_over, Reading.mem_over]
    simp only [Matches, and_or_left, exists_or]
  | group _ a iha => exact iha
  | rep a min more iha =>
    intro i hi j
    rw [mem_paths_moves_rep hi]
    constructor
    · rintro ⟨n, hmin, hmore, hij⟩
      obtain ⟨u, w, x, htext, hu, hw, hround⟩ := (mem_rounds_iff iha n i hi j).mp hij
      exact ⟨u, w, x, htext, hu, hw, n, hmin, hmore, hround⟩
    · rintro ⟨u, w, x, htext, hu, hw, n, hmin, hmore, hround⟩
      exact ⟨n, hmin, hmore, (mem_rounds_iff iha n i hi j).mpr ⟨u, w, x, htext, hu, hw, hround⟩⟩

/-- **The matcher is right.** It accepts a text exactly when the expression matches the whole of
it. -/
theorem matchesWhole_iff (r : Regex) (text : String) :
    r.matchesWhole text = true ↔ r.Matches none text.toList none := by
  have hone : (1 : Positions).toSet ⊆ Set.Iio (text.toList.length + 1) := by
    rw [toSet_one]
    exact Set.singleton_subset_iff.mpr (Nat.succ_pos _)
  have hfollow := Moves.toSet_follow (within_moves text.toList r) hone
  have hwhole : r.matchesWhole text = true ↔
      (0, text.toList.length) ∈ (r.moves text.toList).paths := by
    have hmem := Set.ext_iff.mp hfollow text.toList.length
    rw [toSet_one] at hmem
    rw [matchesWhole, ← mem_toSet, hmem]
    simp
  rw [hwhole, mem_paths_moves_iff text.toList r 0 (Nat.zero_le _), Reading.mem_over]
  constructor
  · rintro ⟨u, w, x, htext, hu, hw, hmatch⟩
    obtain rfl := List.eq_nil_of_length_eq_zero hu
    rw [List.nil_append] at htext
    have hx : x = [] := by
      have hlength := congrArg List.length htext
      rw [List.length_append] at hlength
      exact List.eq_nil_of_length_eq_zero (by omega)
    rw [hx, List.append_nil] at htext
    rw [htext]
    simpa [hx] using hmatch
  · exact fun hmatch => ⟨[], text.toList, [], by simp, rfl, by simp, hmatch⟩

end Enrich.Regex
