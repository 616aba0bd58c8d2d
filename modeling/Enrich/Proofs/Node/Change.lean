import Enrich.Node.Change
import Enrich.Proofs.AttributeMatch.Footprint
import Mathlib.Data.List.Nodup

/-!
# Changes tell all

The changes between two states of a node are one for each attribute with another value, or with one
at last, and one for each tag that is new (`mem_changes_iff`, `nodup_changes`). If nothing was
removed or renamed in between, they are all there is: made on the first state they give the second
(`foldl_apply_changes`).
-/

namespace Enrich

/-- The attribute or the tag that a change is about. -/
def Change.subject : Change → String ⊕ String
  | replaced key _ _ | added key _ => .inl key
  | tagged tag => .inr tag

/-- The attribute that a change sets. -/
def Change.entry? : Change → Option (String × String)
  | replaced key value _ | added key value => some (key, value)
  | tagged _ => none

/-- The tag that a change adds. -/
def Change.tag? : Change → Option String
  | replaced _ _ _ | added _ _ => none
  | tagged tag => some tag

namespace Node

variable {before after n : Node} {key value old tag : String}

/-- Whether a node came from another one by setting attributes and adding tags. -/
structure Extends (before after : Node) : Prop where
  name : after.name = before.name
  keys : ∀ key, after.attributes.find? key = none → before.attributes.find? key = none
  tags : ∀ tag ∈ before.tags, tag ∈ after.tags

theorem Extends.refl (n : Node) : n.Extends n where
  name := rfl
  keys _ := id
  tags _ := id

theorem Extends.trans {last : Node} (h : before.Extends after) (h' : after.Extends last) :
    before.Extends last where
  name := h'.name.trans h.name
  keys key hkey := h.keys key (h'.keys key hkey)
  tags tag htag := h'.tags tag (h.tags tag htag)

/-! ## What the changes are -/

theorem mem_newIn_iff {s t : StringSet} {x : String} : x ∈ s.newIn t ↔ x ∈ s ∧ x ∉ t := by
  rw [StringSet.newIn, List.mem_filter, decide_eq_true_eq]
  rfl

theorem mem_changes_iff {change : Change} : change ∈ before.changes after ↔
    (∃ key value, after.attributes.find? key = some value ∧
      Change.ofAttribute? before.attributes key value = some change) ∨
    ∃ tag, (tag ∈ after.tags ∧ tag ∉ before.tags) ∧ .tagged tag = change := by
  simp only [changes, List.mem_append, List.mem_filterMap, List.mem_map, mem_newIn_iff, Prod.exists,
    StringMap.mem_entries_iff]

theorem ofAttribute?_eq_added_iff {a : Attributes} {k v : String} :
    Change.ofAttribute? a k v = some (.added key value) ↔
      a.find? k = none ∧ k = key ∧ v = value := by
  unfold Change.ofAttribute?
  split
  · next hnone => simp [hnone]
  · next old hold => split <;> simp [hold]

theorem ofAttribute?_eq_replaced_iff {a : Attributes} {k v : String} :
    Change.ofAttribute? a k v = some (.replaced key value old) ↔
      (a.find? k = some old ∧ old ≠ v) ∧ k = key ∧ v = value := by
  unfold Change.ofAttribute?
  split
  · next hnone => simp [hnone]
  · next found hfound =>
    rw [hfound, Option.some.injEq]
    split
    · next heq =>
      subst heq
      constructor
      · intro h
        cases h
      · rintro ⟨⟨rfl, hne⟩, -⟩
        exact absurd rfl hne
    · next hne =>
      simp only [Option.some.injEq, Change.replaced.injEq]
      constructor
      · rintro ⟨rfl, rfl, rfl⟩
        exact ⟨⟨rfl, hne⟩, rfl, rfl⟩
      · rintro ⟨⟨rfl, -⟩, rfl, rfl⟩
        exact ⟨rfl, rfl, rfl⟩

theorem ofAttribute?_ne_tagged {a : Attributes} {k v : String} :
    Change.ofAttribute? a k v ≠ some (.tagged tag) := by
  unfold Change.ofAttribute?
  split
  · simp
  · split <;> simp

theorem added_mem_changes_iff : .added key value ∈ before.changes after ↔
    before.attributes.find? key = none ∧ after.attributes.find? key = some value := by
  simp only [mem_changes_iff, ofAttribute?_eq_added_iff, reduceCtorEq, and_false, exists_false,
    or_false]
  constructor
  · rintro ⟨_, _, hafter, hbefore, rfl, rfl⟩
    exact ⟨hbefore, hafter⟩
  · rintro ⟨hbefore, hafter⟩
    exact ⟨key, value, hafter, hbefore, rfl, rfl⟩

theorem replaced_mem_changes_iff : .replaced key value old ∈ before.changes after ↔
    before.attributes.find? key = some old ∧ after.attributes.find? key = some value ∧
      old ≠ value := by
  simp only [mem_changes_iff, ofAttribute?_eq_replaced_iff, reduceCtorEq, and_false, exists_false,
    or_false]
  constructor
  · rintro ⟨_, _, hafter, ⟨hbefore, hne⟩, rfl, rfl⟩
    exact ⟨hbefore, hafter, hne⟩
  · rintro ⟨hbefore, hafter, hne⟩
    exact ⟨key, value, hafter, ⟨hbefore, hne⟩, rfl, rfl⟩

theorem tagged_mem_changes_iff :
    .tagged tag ∈ before.changes after ↔ tag ∈ after.tags ∧ tag ∉ before.tags := by
  simp only [mem_changes_iff, ofAttribute?_ne_tagged, and_false, exists_false, false_or,
    Change.tagged.injEq, exists_eq_right]

/-! ## One change for each attribute and tag -/

theorem subject_of_ofAttribute? {a : Attributes} {change : Change}
    (h : Change.ofAttribute? a key value = some change) :
    change.subject = .inl key ∧ change.entry? = some (key, value) ∧ change.tag? = none := by
  unfold Change.ofAttribute? at h
  split at h
  · cases h
    exact ⟨rfl, rfl, rfl⟩
  · split at h
    · cases h
    · cases h
      exact ⟨rfl, rfl, rfl⟩

theorem nodup_changes : ((before.changes after).map Change.subject).Nodup := by
  have hkeys : (after.attributes.entries.map Prod.fst).Nodup :=
    after.attributes.ordered.nodup
  have htags : (after.tags.newIn before.tags).Nodup :=
    after.tags.ordered.nodup.sublist List.filter_sublist
  rw [changes, List.map_append, List.nodup_append]
  refine ⟨?_, ?_, ?_⟩
  · rw [List.map_filterMap]
    refine List.Pairwise.filterMap _ ?_ (List.pairwise_map.mp hkeys)
    rintro ⟨key, value⟩ ⟨key', value'⟩ hne subject hsubject subject' hsubject' rfl
    obtain ⟨change, hchange, rfl⟩ := Option.map_eq_some_iff.mp hsubject
    obtain ⟨change', hchange', heq⟩ := Option.map_eq_some_iff.mp hsubject'
    rw [(subject_of_ofAttribute? hchange).1, (subject_of_ofAttribute? hchange').1] at heq
    cases heq
    exact hne rfl
  · rw [List.map_map]
    exact List.pairwise_map.mpr (htags.imp fun hne heq => hne (Sum.inr.inj heq))
  · rintro subject hattribute _ htag rfl
    obtain ⟨change, hchange, rfl⟩ := List.mem_map.mp hattribute
    obtain ⟨⟨key, value⟩, -, hkey⟩ := List.mem_filterMap.mp hchange
    obtain ⟨tagging, htagging, heq⟩ := List.mem_map.mp htag
    obtain ⟨tag, -, rfl⟩ := List.mem_map.mp htagging
    rw [(subject_of_ofAttribute? hkey).1] at heq
    cases heq

/-! ## Making the changes -/

/-- Changes that are made one after the other set the attributes and add the tags that they name. -/
theorem foldl_apply (cs : List Change) (n : Node) :
    cs.foldl Change.apply n = ⟨n.name, n.attributes.insertAll (cs.filterMap Change.entry?),
      n.tags.insertAll (cs.filterMap Change.tag?)⟩ := by
  induction cs generalizing n with
  | nil => rfl
  | cons change cs ih =>
    rw [List.foldl_cons, ih]
    cases change <;> rfl

/-- The attributes that the changes set are those of the last state that differ from the first. -/
theorem filterMap_entry?_changes : (before.changes after).filterMap Change.entry? =
    after.attributes.entries.filter fun (key, value) =>
      before.attributes.find? key ≠ some value := by
  have htagged : ((after.tags.newIn before.tags).map Change.tagged).filterMap Change.entry? = [] := by
    rw [List.filterMap_map, List.filterMap_eq_nil_iff]
    exact fun _ _ => rfl
  rw [changes, List.filterMap_append, htagged, List.append_nil, List.filterMap_filterMap,
    ← List.filterMap_eq_filter]
  refine List.filterMap_congr fun entry _ => ?_
  obtain ⟨key, value⟩ := entry
  rcases Option.eq_none_or_eq_some (before.attributes.find? key) with hnone | ⟨old, hold⟩
  · simp [Change.ofAttribute?, Change.entry?, hnone]
  · by_cases heq : old = value
    · simp [Change.ofAttribute?, Option.guard, hold, heq]
    · simp [Change.ofAttribute?, Change.entry?, hold, heq]

theorem filterMap_tag?_changes :
    (before.changes after).filterMap Change.tag? = after.tags.newIn before.tags := by
  have hattributes : (after.attributes.entries.filterMap fun (key, value) =>
      Change.ofAttribute? before.attributes key value).filterMap Change.tag? = [] := by
    rw [List.filterMap_eq_nil_iff]
    intro change hchange
    obtain ⟨⟨key, value⟩, -, hkey⟩ := List.mem_filterMap.mp hchange
    exact (subject_of_ofAttribute? hkey).2.2
  rw [changes, List.filterMap_append, hattributes, List.nil_append, List.filterMap_map]
  exact List.filterMap_some

theorem findIn?_filter_changed (h : before.Extends after) (key : String) :
    ((StringMap.findIn? key (after.attributes.entries.filter fun (key, value) =>
      before.attributes.find? key ≠ some value)).or (before.attributes.find? key)) =
      after.attributes.find? key := by
  have hordered : ((after.attributes.entries.filter fun (key, value) =>
      before.attributes.find? key ≠ some value).map Prod.fst).Pairwise (· < ·) :=
    after.attributes.ordered.sublist (List.filter_sublist.map _)
  have hfiltered : ∀ value, StringMap.findIn? key (after.attributes.entries.filter
      fun (key, value) => before.attributes.find? key ≠ some value) = some value →
      after.attributes.find? key = some value ∧ before.attributes.find? key ≠ some value := by
    intro value hvalue
    have hmem := List.mem_filter.mp (StringMap.mem_of_findIn? hvalue)
    exact ⟨StringMap.mem_entries_iff.mp hmem.1, by simpa using hmem.2⟩
  cases hfound : StringMap.findIn? key (after.attributes.entries.filter
      fun (key, value) => before.attributes.find? key ≠ some value) with
  | some value => rw [(hfiltered value hfound).1, Option.some_or]
  | none =>
    rw [Option.none_or]
    cases hafter : after.attributes.find? key with
    | none => exact h.keys key hafter
    | some value =>
      -- An attribute of the last state that is not among the changed ones is as it was.
      by_cases hbefore : before.attributes.find? key = some value
      · exact hbefore
      · have hmem : (key, value) ∈ after.attributes.entries.filter
            fun (key, value) => before.attributes.find? key ≠ some value :=
          List.mem_filter.mpr ⟨StringMap.mem_entries_iff.mpr hafter, by simpa using hbefore⟩
        rw [StringMap.findIn?_of_mem hordered hmem] at hfound
        cases hfound

/-- The changes of a node from which nothing was removed give its last state. -/
theorem foldl_apply_changes (h : before.Extends after) :
    (before.changes after).foldl Change.apply before = after := by
  rw [foldl_apply, filterMap_entry?_changes, filterMap_tag?_changes]
  refine ext_find? h.name.symm (fun key => ?_) (fun tag => ?_)
  · rw [StringMap.find?_insertAll (after.attributes.ordered.sublist (List.filter_sublist.map _))]
    exact findIn?_filter_changed h key
  · rw [StringSet.mem_insertAll, mem_newIn_iff]
    constructor
    · rintro (⟨hafter, -⟩ | hbefore)
      · exact hafter
      · exact h.tags tag hbefore
    · intro hafter
      by_cases hbefore : tag ∈ before.tags
      · exact .inr hbefore
      · exact .inl ⟨hafter, hbefore⟩

theorem changes_ne_nil (h : before.Extends after) (hne : before ≠ after) :
    before.changes after ≠ [] := by
  intro hnil
  have hfold := foldl_apply_changes h
  rw [hnil] at hfold
  exact hne hfold

theorem changes_self (n : Node) : n.changes n = [] := by
  refine List.eq_nil_iff_forall_not_mem.mpr fun change hchange => ?_
  cases change with
  | replaced key value old =>
    obtain ⟨hold, hvalue, hne⟩ := replaced_mem_changes_iff.mp hchange
    exact hne (Option.some.inj (hold.symm.trans hvalue))
  | added key value =>
    obtain ⟨hnone, hvalue⟩ := added_mem_changes_iff.mp hchange
    rw [hnone] at hvalue
    cases hvalue
  | tagged tag =>
    obtain ⟨hafter, hbefore⟩ := tagged_mem_changes_iff.mp hchange
    exact hbefore hafter

end Node

end Enrich
