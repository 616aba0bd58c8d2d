import Enrich.Proofs.Except

/-!
# Positions and numbers that are checked

Access to a list by position, and arithmetic on numbers of a bounded type. Each operation ends the
computation where the position is not in the list or the result is out of range, so that one which
does not end so stayed in range all along. `StandsAt` says what a position of a list points to.
-/

namespace Enrich

/-- Why a computation ends early: at a position that is not there, with a number out of range, or
because it refuses its input. -/
inductive Stop (ε : Type) where
  | outOfBounds
  | overflow
  | refused (cause : ε)
  deriving DecidableEq, Repr

/-- The same end with another reason for a refusal. -/
def Stop.map {ε δ : Type} (f : ε → δ) : Stop ε → Stop δ
  | .outOfBounds => .outOfBounds
  | .overflow => .overflow
  | .refused cause => .refused (f cause)

namespace Checked

variable {ε α : Type}

/-- The sum of two numbers, at most `limit`. -/
def add (limit a b : Nat) : Except (Stop ε) Nat :=
  if a + b ≤ limit then .ok (a + b) else .error .overflow

/-- The product of two numbers, at most `limit`. -/
def mul (limit a b : Nat) : Except (Stop ε) Nat :=
  if a * b ≤ limit then .ok (a * b) else .error .overflow

/-- The difference of two numbers, never below zero. -/
def sub (a b : Nat) : Except (Stop ε) Nat :=
  if b ≤ a then .ok (a - b) else .error .overflow

/-- What stands at a position. -/
def get (text : List α) (i : Nat) : Except (Stop ε) α :=
  match text[i]? with
  | some c => .ok c
  | none => .error .outOfBounds

/-- What stands between two positions, if they are in order and in the list. -/
def slice? (text : List α) (lo hi : Nat) : Option (List α) :=
  if lo ≤ hi ∧ hi ≤ text.length then some ((text.take hi).drop lo) else none

/-- What stands between two positions. -/
def slice (text : List α) (lo hi : Nat) : Except (Stop ε) (List α) :=
  match slice? text lo hi with
  | some part => .ok part
  | none => .error .outOfBounds

variable {limit a b n lo hi : Nat} {text part : List α}

theorem add_eq_ok (h : a + b ≤ limit) : (add limit a b : Except (Stop ε) Nat) = .ok (a + b) :=
  if_pos h

theorem add_eq_ok_iff :
    (add limit a b : Except (Stop ε) Nat) = .ok n ↔ a + b ≤ limit ∧ a + b = n :=
  ite_error_eq_ok_iff

theorem mul_eq_ok (h : a * b ≤ limit) : (mul limit a b : Except (Stop ε) Nat) = .ok (a * b) :=
  if_pos h

theorem sub_eq_ok (h : b ≤ a) : (sub a b : Except (Stop ε) Nat) = .ok (a - b) :=
  if_pos h

theorem sub_eq_ok_iff :
    (sub a b : Except (Stop ε) Nat) = .ok n ↔ b ≤ a ∧ a - b = n :=
  ite_error_eq_ok_iff

theorem slice_eq_ok (hle : lo ≤ hi) (hhi : hi ≤ text.length) :
    (slice text lo hi : Except (Stop ε) (List α)) = .ok ((text.take hi).drop lo) := by
  rw [slice, slice?, if_pos ⟨hle, hhi⟩]

theorem slice?_length (h : slice? text lo hi = some part) : part.length = hi - lo := by
  rw [slice?] at h
  split at h
  · next hin =>
    cases h
    rw [List.length_drop, List.length_take_of_le hin.2]
  · cases h

end Checked

/-! ## What a position points to -/

section

variable {α : Type} {text part rest : List α} {i : Nat} {c : α}

/-- Whether `rest` is what stands in a text from position `i` on. -/
def StandsAt (text : List α) (i : Nat) (rest : List α) : Prop :=
  ∃ front, text = front ++ rest ∧ front.length = i

theorem standsAt_iff : StandsAt text i rest ↔ i ≤ text.length ∧ text.drop i = rest := by
  constructor
  · rintro ⟨front, rfl, rfl⟩
    simp
  · intro ⟨hle, hrest⟩
    exact ⟨text.take i, by rw [← hrest, List.take_append_drop], List.length_take_of_le hle⟩

theorem standsAt_zero (text : List α) : StandsAt text 0 text :=
  ⟨[], rfl, rfl⟩

theorem exists_standsAt_cons (h : i < text.length) : ∃ c rest, StandsAt text i (c :: rest) :=
  ⟨text[i], text.drop (i + 1), standsAt_iff.mpr ⟨Nat.le_of_lt h, List.drop_eq_getElem_cons h⟩⟩

namespace StandsAt

theorem length_eq (h : StandsAt text i rest) : text.length = i + rest.length := by
  obtain ⟨front, rfl, rfl⟩ := h
  exact List.length_append

theorem lt (h : StandsAt text i (c :: rest)) : i < text.length := by
  have hlength := h.length_eq
  rw [List.length_cons] at hlength
  omega

theorem append (h : StandsAt text i (part ++ rest)) : StandsAt text (i + part.length) rest := by
  obtain ⟨front, rfl, rfl⟩ := h
  exact ⟨front ++ part, by rw [List.append_assoc], List.length_append⟩

theorem cons (h : StandsAt text i (c :: rest)) : StandsAt text (i + 1) rest :=
  StandsAt.append (show StandsAt text i ([c] ++ rest) from h)

theorem drop_eq (h : StandsAt text i rest) : text.drop i = rest :=
  (standsAt_iff.mp h).2

theorem take_succ (h : StandsAt text i (c :: rest)) : text.take (i + 1) = text.take i ++ [c] := by
  obtain ⟨front, rfl, rfl⟩ := h
  simp [List.take_append, List.take_of_length_le]

theorem getElem?_eq (h : StandsAt text i rest) : text[i]? = rest.head? := by
  obtain ⟨front, rfl, rfl⟩ := h
  rw [List.getElem?_append_right (Nat.le_refl _), Nat.sub_self, List.head?_eq_getElem?]

theorem get_eq {ε : Type} (h : StandsAt text i (c :: rest)) :
    (Checked.get text i : Except (Stop ε) α) = .ok c := by
  rw [Checked.get, h.getElem?_eq]
  rfl

theorem slice?_eq_some_iff {n : Nat} (h : StandsAt text i rest) :
    Checked.slice? text i (i + n) = some part ↔
      part.length = n ∧ ∃ behind, rest = part ++ behind := by
  have hlength := h.length_eq
  obtain ⟨front, rfl, rfl⟩ := h
  rw [Checked.slice?]
  constructor
  · intro hpart
    split at hpart
    · next hin =>
      cases hpart
      have htake : ((front ++ rest).take (front.length + n)).drop front.length = rest.take n := by
        rw [List.drop_take, Nat.add_sub_cancel_left, List.drop_left]
      rw [htake, List.length_take_of_le (by omega)]
      exact ⟨rfl, rest.drop n, (List.take_append_drop n rest).symm⟩
    · cases hpart
  · rintro ⟨rfl, behind, rfl⟩
    rw [if_pos]
    · rw [← List.append_assoc, ← List.length_append, List.take_left, List.drop_left]
    · simp only [List.length_append]
      omega

end StandsAt

end

end Enrich
