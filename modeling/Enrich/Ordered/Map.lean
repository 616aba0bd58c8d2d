/-!
# Ordered maps

Finite maps with string keys, kept in increasing order of the keys. Main statements: what `find?`
gives after `insert`, and that two maps with the same values under all keys are equal, so that a
map is determined by what can be looked up in it.
-/

namespace Enrich

/-- A finite map from strings, its entries in increasing order of the keys. -/
structure StringMap (β : Type) where
  entries : List (String × β)
  ordered : (entries.map Prod.fst).Pairwise (· < ·)

namespace StringMap

variable {β γ : Type}

instance [DecidableEq β] : DecidableEq (StringMap β) := fun a b =>
  decidable_of_iff (a.entries = b.entries) (by cases a; cases b; simp)

/-- The map without entries. -/
def empty : StringMap β := ⟨[], .nil⟩

instance : EmptyCollection (StringMap β) := ⟨empty⟩
instance : Inhabited (StringMap β) := ⟨empty⟩

/-- The value of the entry with key `k`. -/
def findIn? (k : String) : List (String × β) → Option β
  | [] => none
  | (k', v) :: rest => if k = k' then some v else findIn? k rest

/-- The value under a key. -/
def find? (m : StringMap β) (k : String) : Option β :=
  findIn? k m.entries

/-- The keys in increasing order. -/
def keys (m : StringMap β) : List String :=
  m.entries.map Prod.fst

/-- The number of entries. -/
def size (m : StringMap β) : Nat :=
  m.entries.length

/-- Whether there is no entry. -/
def isEmpty (m : StringMap β) : Bool :=
  m.entries.isEmpty

/-- The entries with `v` under `k`, in place of the old value if there is one. -/
def insertEntry (k : String) (v : β) : List (String × β) → List (String × β)
  | [] => [(k, v)]
  | (k', v') :: rest =>
    if k < k' then (k, v) :: (k', v') :: rest
    else if k = k' then (k, v) :: rest
    else (k', v') :: insertEntry k v rest

theorem mem_keys_insertEntry {k x : String} {v : β} {es : List (String × β)}
    (h : x ∈ (insertEntry k v es).map Prod.fst) : x = k ∨ x ∈ es.map Prod.fst := by
  induction es with
  | nil => simpa [insertEntry] using h
  | cons e rest ih =>
    obtain ⟨k', v'⟩ := e
    simp only [insertEntry] at h
    split at h
    · simpa using h
    · split at h
      · simp only [List.map_cons, List.mem_cons] at h ⊢
        exact h.elim .inl fun h => .inr (.inr h)
      · simp only [List.map_cons, List.mem_cons] at h ⊢
        rcases h with h | h
        · exact .inr (.inl h)
        · exact (ih h).elim .inl fun h => .inr (.inr h)

theorem pairwise_keys_insertEntry {k : String} {v : β} {es : List (String × β)}
    (h : (es.map Prod.fst).Pairwise (· < ·)) :
    ((insertEntry k v es).map Prod.fst).Pairwise (· < ·) := by
  induction es with
  | nil => simp [insertEntry]
  | cons e rest ih =>
    obtain ⟨k', v'⟩ := e
    simp only [List.map_cons, List.pairwise_cons] at h
    simp only [insertEntry]
    split
    · next hlt =>
      simp only [List.map_cons, List.pairwise_cons, List.mem_cons]
      exact ⟨fun x hx => hx.elim (fun e => e ▸ hlt) fun hx => String.lt_trans hlt (h.1 x hx), h⟩
    · next hlt =>
      split
      · next heq =>
        subst heq
        simpa only [List.map_cons, List.pairwise_cons] using h
      · next hne =>
        simp only [List.map_cons, List.pairwise_cons]
        refine ⟨fun x hx => ?_, ih h.2⟩
        rcases mem_keys_insertEntry hx with rfl | hx
        · exact String.not_le.mp fun hle => hne (String.le_antisymm hle (String.not_lt.mp hlt))
        · exact h.1 x hx

/-- The map with `v` under `k`, in place of the old value if there is one. -/
def insert (m : StringMap β) (k : String) (v : β) : StringMap β :=
  ⟨insertEntry k v m.entries, pairwise_keys_insertEntry m.ordered⟩

/-- The map with all entries of a list, the later of two with the same key. -/
def insertAll (m : StringMap β) (entries : List (String × β)) : StringMap β :=
  entries.foldl (fun m e => m.insert e.1 e.2) m

/-- The map of a list of entries; of two with the same key the later one counts. -/
def ofList (entries : List (String × β)) : StringMap β :=
  empty.insertAll entries

/-- The entries of both maps; under a key of both, the value of the second. -/
def merge (m n : StringMap β) : StringMap β :=
  m.insertAll n.entries

/-- The map with every value replaced. -/
def mapValues (f : β → γ) (m : StringMap β) : StringMap γ where
  entries := m.entries.map fun e => (e.1, f e.2)
  ordered := by simpa [Function.comp_def] using m.ordered

/-- The map with the value under a key replaced according to what it is now. -/
def update (m : StringMap β) (k : String) (f : Option β → β) : StringMap β :=
  m.insert k (f (m.find? k))

theorem findIn?_insertEntry (k x : String) (v : β) (es : List (String × β)) :
    findIn? x (insertEntry k v es) = if x = k then some v else findIn? x es := by
  induction es with
  | nil => simp [insertEntry, findIn?]
  | cons e rest ih =>
    obtain ⟨k', v'⟩ := e
    simp only [insertEntry]
    split
    · simp [findIn?]
    · split
      · next heq => subst heq; simp only [findIn?]; split <;> simp_all
      · next hne =>
        simp only [findIn?, ih]
        by_cases hx : x = k'
        · simp [hx, Ne.symm hne]
        · simp [hx]

@[simp] theorem find?_insert (m : StringMap β) (k x : String) (v : β) :
    (m.insert k v).find? x = if x = k then some v else m.find? x :=
  findIn?_insertEntry k x v m.entries

@[simp] theorem find?_empty (x : String) : (empty : StringMap β).find? x = none := rfl

theorem findIn?_map (f : β → γ) (x : String) (es : List (String × β)) :
    findIn? x (es.map fun e => (e.1, f e.2)) = (findIn? x es).map f := by
  induction es with
  | nil => rfl
  | cons e rest ih => simp only [List.map_cons, findIn?, ih]; split <;> rfl

@[simp] theorem find?_mapValues (f : β → γ) (m : StringMap β) (x : String) :
    (m.mapValues f).find? x = (m.find? x).map f :=
  findIn?_map f x m.entries

theorem findIn?_eq_none {x : String} {es : List (String × β)} :
    findIn? x es = none ↔ x ∉ es.map Prod.fst := by
  induction es with
  | nil => simp [findIn?]
  | cons e rest ih =>
    obtain ⟨k, v⟩ := e
    simp only [findIn?, List.map_cons, List.mem_cons, not_or]
    split <;> simp_all

theorem entries_eq_of_findIn? {es fs : List (String × β)}
    (he : (es.map Prod.fst).Pairwise (· < ·)) (hf : (fs.map Prod.fst).Pairwise (· < ·))
    (h : ∀ x, findIn? x es = findIn? x fs) : es = fs := by
  induction es generalizing fs with
  | nil =>
    cases fs with
    | nil => rfl
    | cons f fs => have := h f.1; simp [findIn?] at this
  | cons e es ih =>
    cases fs with
    | nil => have := h e.1; simp [findIn?] at this
    | cons f fs =>
      obtain ⟨k, v⟩ := e
      obtain ⟨l, w⟩ := f
      simp only [List.map_cons, List.pairwise_cons] at he hf
      have notMem {k : String} {es : List (String × β)}
          (hlt : ∀ x ∈ es.map Prod.fst, k < x) : findIn? k es = none :=
        findIn?_eq_none.mpr fun hm => String.lt_irrefl k (hlt k hm)
      have isMem {k : String} {v : β} {fs : List (String × β)}
          (hs : findIn? k fs = some v) : k ∈ fs.map Prod.fst := by
        by_cases hm : k ∈ fs.map Prod.fst
        · exact hm
        · rw [findIn?_eq_none.mpr hm] at hs; cases hs
      have hkl : k = l := by
        by_cases hkl : k = l
        · exact hkl
        · have h1 := h k
          have h2 := h l
          simp only [findIn?, hkl, Ne.symm hkl, if_true, if_false] at h1 h2
          exact absurd (hf.1 k (isMem h1.symm)) (String.lt_asymm (he.1 l (isMem h2)))
      subst hkl
      have hv : v = w := by have := h k; simpa [findIn?] using this
      subst hv
      refine congrArg _ (ih he.2 hf.2 fun x => ?_)
      by_cases hx : x = k
      · subst hx; rw [notMem he.1, notMem hf.1]
      · have := h x; simpa [findIn?, hx] using this

/-- A map is determined by what can be looked up in it. -/
theorem ext_find? {m n : StringMap β} (h : ∀ x, m.find? x = n.find? x) : m = n := by
  obtain ⟨es, he⟩ := m
  obtain ⟨fs, hf⟩ := n
  have : es = fs := entries_eq_of_findIn? he hf h
  subst this
  rfl

end StringMap

end Enrich
