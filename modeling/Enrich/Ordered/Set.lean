/-!
# Ordered sets

Finite sets of strings, kept in increasing order. Main statements: what belongs to a set after an
insertion, and that two sets with the same members are equal.
-/

namespace Enrich

/-- A finite set of strings in increasing order. -/
structure StringSet where
  toList : List String
  ordered : toList.Pairwise (· < ·)
  deriving DecidableEq

namespace StringSet

theorem pairwise_nil : ([] : List String).Pairwise (· < ·) := .nil

/-- The set without members. -/
def empty : StringSet := ⟨[], pairwise_nil⟩

instance : EmptyCollection StringSet := ⟨empty⟩
instance : Inhabited StringSet := ⟨empty⟩
instance : Membership String StringSet := ⟨fun s x => x ∈ s.toList⟩
instance (x : String) (s : StringSet) : Decidable (x ∈ s) :=
  inferInstanceAs (Decidable (x ∈ s.toList))

/-- The number of members. -/
def size (s : StringSet) : Nat :=
  s.toList.length

/-- An ordered list with one more member. -/
def insertOrdered (x : String) : List String → List String
  | [] => [x]
  | y :: rest => if x < y then x :: y :: rest else if x = y then y :: rest else
    y :: insertOrdered x rest

theorem mem_insertOrdered {x y : String} {xs : List String} :
    y ∈ insertOrdered x xs ↔ y = x ∨ y ∈ xs := by
  induction xs with
  | nil => simp [insertOrdered]
  | cons z rest ih =>
    simp only [insertOrdered]
    split
    · simp
    · split
      · next h => subst h; simp
      · simp only [List.mem_cons, ih]
        constructor <;> rintro (h | h | h) <;> simp [h]

theorem pairwise_insertOrdered {x : String} {xs : List String} (h : xs.Pairwise (· < ·)) :
    (insertOrdered x xs).Pairwise (· < ·) := by
  induction xs with
  | nil => simp [insertOrdered]
  | cons z rest ih =>
    have hz := List.pairwise_cons.mp h
    simp only [insertOrdered]
    split
    · next hlt =>
      refine List.pairwise_cons.mpr ⟨fun y hy => ?_, h⟩
      rcases List.mem_cons.mp hy with rfl | hy
      · exact hlt
      · exact String.lt_trans hlt (hz.1 y hy)
    · next hlt =>
      split
      · exact h
      · next hne =>
        refine List.pairwise_cons.mpr ⟨fun y hy => ?_, ih hz.2⟩
        rcases mem_insertOrdered.mp hy with rfl | hy
        · exact String.not_le.mp fun hle => hne (String.le_antisymm hle (String.not_lt.mp hlt))
        · exact hz.1 y hy

/-- The set with one more member. -/
def insert (s : StringSet) (x : String) : StringSet :=
  ⟨insertOrdered x s.toList, pairwise_insertOrdered s.ordered⟩

/-- The set with all members of a list. -/
def insertAll (s : StringSet) (xs : List String) : StringSet :=
  xs.foldl insert s

/-- The set of the members of a list. -/
def ofList (xs : List String) : StringSet :=
  empty.insertAll xs

/-- The members of either set. -/
def union (s t : StringSet) : StringSet :=
  s.insertAll t.toList

/-- The members of `s` that are not in `t`, in increasing order. -/
def newIn (s t : StringSet) : List String :=
  s.toList.filter (· ∉ t)

@[simp] theorem mem_insert {s : StringSet} {x y : String} : y ∈ s.insert x ↔ y = x ∨ y ∈ s :=
  mem_insertOrdered

@[simp] theorem not_mem_empty (x : String) : x ∉ (empty : StringSet) := List.not_mem_nil

@[simp] theorem mem_insertAll {s : StringSet} {xs : List String} {y : String} :
    y ∈ s.insertAll xs ↔ y ∈ xs ∨ y ∈ s := by
  induction xs generalizing s with
  | nil => simp [insertAll]
  | cons x xs ih =>
    have : s.insertAll (x :: xs) = (s.insert x).insertAll xs := rfl
    rw [this, ih, mem_insert, List.mem_cons]
    exact or_left_comm.trans or_assoc.symm

@[simp] theorem mem_union {s t : StringSet} {x : String} : x ∈ s.union t ↔ x ∈ s ∨ x ∈ t := by
  rw [union, mem_insertAll]
  exact or_comm

theorem eq_of_mem_iff {xs ys : List String} (hx : xs.Pairwise (· < ·)) (hy : ys.Pairwise (· < ·))
    (h : ∀ z, z ∈ xs ↔ z ∈ ys) : xs = ys := by
  induction xs generalizing ys with
  | nil =>
    cases ys with
    | nil => rfl
    | cons y ys => exact absurd ((h y).mpr (by simp)) (by simp)
  | cons x xs ih =>
    cases ys with
    | nil => exact absurd ((h x).mp (by simp)) (by simp)
    | cons y ys =>
      have hx := List.pairwise_cons.mp hx
      have hy := List.pairwise_cons.mp hy
      have hxy : x = y := by
        rcases List.mem_cons.mp ((h x).mp (by simp)) with e | e
        · exact e
        · rcases List.mem_cons.mp ((h y).mpr (by simp)) with e' | e'
          · exact e'.symm
          · exact absurd (hx.1 y e') (String.lt_asymm (hy.1 x e))
      subst hxy
      refine congrArg _ (ih hx.2 hy.2 fun z => ?_)
      by_cases hz : z = x
      · subst hz
        exact ⟨fun m => absurd (hx.1 z m) (String.lt_irrefl z),
          fun m => absurd (hy.1 z m) (String.lt_irrefl z)⟩
      · simpa [hz] using h z

/-- A set is determined by its members. -/
theorem ext_mem {s t : StringSet} (h : ∀ x, x ∈ s ↔ x ∈ t) : s = t := by
  obtain ⟨xs, hx⟩ := s
  obtain ⟨ys, hy⟩ := t
  have : xs = ys := eq_of_mem_iff hx hy h
  subst this
  rfl

end StringSet

end Enrich
