import Enrich.Ordered.Map

/-!
# Entries and keys of a map

What a map lists is what can be looked up in it: its entries are the pairs found, its keys those
under which something is found. What is found in a merged map comes from the second map, or else
from the first (`find?_merge`), and a map made of a list holds the last value under each key
(`find?_ofList_eq_some_iff`). `AgreeOn` says of two maps that under some keys they do not differ.
-/

namespace Enrich.StringMap

variable {β : Type}

theorem mem_keys_iff {m : StringMap β} {k : String} : k ∈ m.keys ↔ m.find? k ≠ none :=
  ⟨fun hk hnone => findIn?_eq_none.mp hnone hk,
    fun hsome => Decidable.not_not.mp fun hk => hsome (findIn?_eq_none.mpr hk)⟩

/-- Nothing is found under a key that is too long. -/
theorem exists_length_bound (m : StringMap β) : ∃ n, ∀ k, n < k.length → m.find? k = none := by
  have hbound : ∀ keys : List String, ∃ n, ∀ k ∈ keys, k.length ≤ n := by
    intro keys
    induction keys with
    | nil => exact ⟨0, by simp⟩
    | cons key keys ih =>
      obtain ⟨n, hn⟩ := ih
      refine ⟨max key.length n, List.forall_mem_cons.mpr ⟨Nat.le_max_left _ _, fun k hk => ?_⟩⟩
      exact Nat.le_trans (hn k hk) (Nat.le_max_right _ _)
  obtain ⟨n, hn⟩ := hbound m.keys
  refine ⟨n, fun k hk => Decidable.not_not.mp fun hfound => ?_⟩
  exact Nat.not_lt.mpr (hn k (mem_keys_iff.mpr hfound)) hk

theorem mem_of_findIn? {k : String} {v : β} {es : List (String × β)}
    (h : findIn? k es = some v) : (k, v) ∈ es := by
  induction es with
  | nil => cases h
  | cons e es ih =>
    obtain ⟨l, w⟩ := e
    simp only [findIn?] at h
    split at h
    · next heq =>
      subst heq
      cases h
      exact List.mem_cons_self
    · exact List.mem_cons_of_mem _ (ih h)

theorem findIn?_of_mem {k : String} {v : β} {es : List (String × β)}
    (hes : (es.map Prod.fst).Pairwise (· < ·)) (h : (k, v) ∈ es) : findIn? k es = some v := by
  induction es with
  | nil => cases h
  | cons e es ih =>
    obtain ⟨l, w⟩ := e
    simp only [List.map_cons, List.pairwise_cons] at hes
    simp only [findIn?]
    rcases List.mem_cons.mp h with heq | hmem
    · cases heq
      rw [if_pos rfl]
    · have hlt : l < k := hes.1 k (List.mem_map.mpr ⟨(k, v), hmem, rfl⟩)
      have hne : k ≠ l := fun heq => String.lt_irrefl l (heq ▸ hlt)
      rw [if_neg hne]
      exact ih hes.2 hmem

theorem mem_entries_iff {m : StringMap β} {k : String} {v : β} :
    (k, v) ∈ m.entries ↔ m.find? k = some v :=
  ⟨findIn?_of_mem m.ordered, mem_of_findIn?⟩

theorem find?_update (m : StringMap β) (k x : String) (f : Option β → β) :
    (m.update k f).find? x = if x = k then some (f (m.find? k)) else m.find? x :=
  find?_insert m k x _

theorem find?_insertAll {m : StringMap β} {es : List (String × β)}
    (hes : (es.map Prod.fst).Pairwise (· < ·)) (x : String) :
    (m.insertAll es).find? x = (findIn? x es).or (m.find? x) := by
  induction es generalizing m with
  | nil => rfl
  | cons e es ih =>
    obtain ⟨k, v⟩ := e
    simp only [List.map_cons, List.pairwise_cons] at hes
    have hinsert : m.insertAll ((k, v) :: es) = (m.insert k v).insertAll es := rfl
    rw [hinsert, ih hes.2, find?_insert, findIn?]
    by_cases hx : x = k
    · subst hx
      have hnone : findIn? x es = none :=
        findIn?_eq_none.mpr fun hmem => String.lt_irrefl x (hes.1 x hmem)
      simp [hnone]
    · simp [hx]

theorem find?_merge (m n : StringMap β) (x : String) :
    (m.merge n).find? x = (n.find? x).or (m.find? x) :=
  find?_insertAll n.ordered x

/-- Whether a value is the last one under its key in a list of entries. -/
def IsLast (es : List (String × β)) (k : String) (v : β) : Prop :=
  ∃ front back, es = front ++ (k, v) :: back ∧ k ∉ back.map Prod.fst

theorem isLast_cons {e : String × β} {es : List (String × β)} {k : String} {v : β} :
    IsLast (e :: es) k v ↔ IsLast es k v ∨ e = (k, v) ∧ k ∉ es.map Prod.fst := by
  constructor
  · rintro ⟨front, back, hes, hback⟩
    cases front with
    | nil =>
      cases hes
      exact .inr ⟨rfl, hback⟩
    | cons f front =>
      cases hes
      exact .inl ⟨front, back, rfl, hback⟩
  · rintro (⟨front, back, rfl, hback⟩ | ⟨rfl, hes⟩)
    · exact ⟨e :: front, back, rfl, hback⟩
    · exact ⟨[], es, rfl, hes⟩

theorem find?_insertAll_eq_some_iff {m : StringMap β} {es : List (String × β)} {k : String}
    {v : β} : (m.insertAll es).find? k = some v ↔
      IsLast es k v ∨ k ∉ es.map Prod.fst ∧ m.find? k = some v := by
  induction es generalizing m with
  | nil =>
    have hnone : ¬ IsLast [] k v := by
      rintro ⟨front, back, hes, -⟩
      cases front <;> cases hes
    simp [insertAll, hnone]
  | cons e es ih =>
    obtain ⟨l, w⟩ := e
    have hinsert : m.insertAll ((l, w) :: es) = (m.insert l w).insertAll es := rfl
    rw [hinsert, ih, find?_insert, isLast_cons, or_assoc]
    refine or_congr_right ?_
    by_cases hk : k = l
    · subst hk
      simp [and_comm]
    · simp [hk, Ne.symm hk]

theorem find?_ofList_eq_some_iff {es : List (String × β)} {k : String} {v : β} :
    (ofList es).find? k = some v ↔ IsLast es k v := by
  rw [ofList, find?_insertAll_eq_some_iff, find?_empty]
  simp

theorem mem_keys_ofList {es : List (String × β)} {k : String} :
    k ∈ (ofList es).keys ↔ k ∈ es.map Prod.fst := by
  rw [mem_keys_iff, Option.ne_none_iff_exists']
  simp only [find?_ofList_eq_some_iff]
  constructor
  · rintro ⟨v, front, back, rfl, -⟩
    simp
  · intro hk
    induction es with
    | nil => cases hk
    | cons e es ih =>
      by_cases hes : k ∈ es.map Prod.fst
      · obtain ⟨v, hv⟩ := ih hes
        exact ⟨v, isLast_cons.mpr (.inl hv)⟩
      · rw [List.map_cons, List.mem_cons, or_iff_left hes] at hk
        exact ⟨e.2, isLast_cons.mpr (.inr ⟨by rw [hk], hes⟩)⟩

/-- Whether two maps have the same values under some keys. -/
def AgreeOn (keys : List String) (m n : StringMap β) : Prop :=
  ∀ key ∈ keys, m.find? key = n.find? key

theorem AgreeOn.mono {keys fewer : List String} {m n : StringMap β} (h : AgreeOn keys m n)
    (hsub : fewer ⊆ keys) : AgreeOn fewer m n :=
  fun key hkey => h key (hsub hkey)

end Enrich.StringMap
