import Enrich.AttributeMatch.Basic
import Enrich.Proofs.Rule.RuleSet
import Enrich.Proofs.Template.Filling

/-!
# What an attribute match reads and writes

What an attribute match does to a node depends on the attributes under the keys it reads (`reads`)
and touches no attributes but those under the keys it writes (`writes`). So two matches that keep
off each other's keys may be made in either order (`enhance_comm`).
-/

namespace Enrich

/-- A node is determined by its name, what can be looked up in its attributes, and its tags. -/
theorem Node.ext_find? {n n' : Node} (hname : n.name = n'.name)
    (hattributes : ∀ key, n.attributes.find? key = n'.attributes.find? key)
    (htags : ∀ tag, tag ∈ n.tags ↔ tag ∈ n'.tags) : n = n' := by
  obtain ⟨name, attributes, tags⟩ := n
  obtain ⟨name', attributes', tags'⟩ := n'
  cases hname
  cases StringMap.ext_find? hattributes
  cases StringSet.ext_mem htags
  rfl

namespace AttributeMatch

open StringMap (AgreeOn)
open Template (AgreeInText)

variable {m : AttributeMatch} {a b : Attributes} {n : Node} {key tag : String}

/-! ## What is read -/

/-- The names of the placeholders in the values and tags that the match may add. -/
def placeholders (m : AttributeMatch) : List String :=
  (m.attributes.entries.entries.map Prod.snd ++ m.tags.tokens).flatMap Template.holes

/-- Whether a match sees no difference between some attributes: the rules ask for the same values,
and placeholders, if they are filled, get the same texts. -/
structure LookAlike (m : AttributeMatch) (a b : Attributes) : Prop where
  rules : AgreeOn m.rules.keys a b
  placeholders : m.substitute = true → AgreeInText m.placeholders a b

theorem placeholders_subset_reads (hsubstitute : m.substitute = true) :
    m.placeholders ⊆ m.reads := by
  unfold reads
  rw [if_pos hsubstitute]
  exact List.subset_append_right _ _

theorem lookAlike_of_agreeOn (h : AgreeOn m.reads a b) : m.LookAlike a b where
  rules := h.mono (List.subset_append_left _ _)
  placeholders hs := Template.agreeInText_of_agreeOn (h.mono (placeholders_subset_reads hs))

theorem newAttributes_congr (h : m.substitute = true → AgreeInText m.placeholders a b) :
    m.newAttributes a = m.newAttributes b := by
  refine Template.AttributeTemplates.render_congr fun hs => (h hs).mono ?_
  rw [placeholders, List.flatMap_append]
  exact List.subset_append_left _ _

theorem newTags_congr (h : m.substitute = true → AgreeInText m.placeholders a b) :
    m.newTags a = m.newTags b := by
  refine Template.TagTemplates.render_congr fun hs => (h hs).mono ?_
  rw [placeholders, List.flatMap_append]
  exact List.subset_append_right _ _

/-- The attributes that the match sets on a node: none if its rules do not hold. -/
def setsAttributes (m : AttributeMatch) (attributes : Attributes) : Attributes :=
  if m.evaluate attributes then m.newAttributes attributes else ∅

/-- The tags that the match adds to a node: none if its rules do not hold. -/
def setsTags (m : AttributeMatch) (attributes : Attributes) : StringSet :=
  if m.evaluate attributes then m.newTags attributes else ∅

namespace LookAlike

theorem evaluate_eq (h : m.LookAlike a b) : m.evaluate a = m.evaluate b :=
  RuleSet.matches_congr h.rules

theorem setsAttributes_eq (h : m.LookAlike a b) : m.setsAttributes a = m.setsAttributes b := by
  unfold setsAttributes
  rw [h.evaluate_eq, newAttributes_congr h.placeholders]

theorem setsTags_eq (h : m.LookAlike a b) : m.setsTags a = m.setsTags b := by
  unfold setsTags
  rw [h.evaluate_eq, newTags_congr h.placeholders]

theorem outcome_eq {n' : Node} (h : m.LookAlike n.attributes n'.attributes) :
    (m.enhance n).2 = (m.enhance n').2 := by
  unfold enhance
  rw [h.evaluate_eq, newAttributes_congr h.placeholders, newTags_congr h.placeholders]
  split <;> rfl

end LookAlike

theorem setsAttributes_congr (h : AgreeOn m.reads a b) : m.setsAttributes a = m.setsAttributes b :=
  (lookAlike_of_agreeOn h).setsAttributes_eq

theorem setsTags_congr (h : AgreeOn m.reads a b) : m.setsTags a = m.setsTags b :=
  (lookAlike_of_agreeOn h).setsTags_eq

theorem outcome_congr {n' : Node} (h : AgreeOn m.reads n.attributes n'.attributes) :
    (m.enhance n).2 = (m.enhance n').2 :=
  (lookAlike_of_agreeOn h).outcome_eq

/-! ## What is written -/

@[simp] theorem name_enhance : (m.enhance n).1.name = n.name := by
  unfold enhance
  split <;> rfl

theorem find?_enhance : (m.enhance n).1.attributes.find? key =
    ((m.setsAttributes n.attributes).find? key).or (n.attributes.find? key) := by
  unfold enhance setsAttributes
  split
  · exact StringMap.find?_merge _ _ key
  · rfl

theorem mem_tags_enhance :
    tag ∈ (m.enhance n).1.tags ↔ tag ∈ m.setsTags n.attributes ∨ tag ∈ n.tags := by
  unfold enhance setsTags
  split
  · exact StringSet.mem_union.trans or_comm
  · exact (or_iff_right (StringSet.not_mem_empty tag)).symm

theorem find?_setsAttributes_of_notMem (h : key ∉ m.writes) :
    (m.setsAttributes a).find? key = none := by
  unfold setsAttributes
  split
  · refine Decidable.not_not.mp fun hne => h ?_
    have hmem : key ∈ (m.newAttributes a).keys := StringMap.mem_keys_iff.mpr hne
    rwa [newAttributes, Template.AttributeTemplates.keys_render] at hmem
  · rfl

theorem find?_enhance_of_notMem (h : key ∉ m.writes) :
    (m.enhance n).1.attributes.find? key = n.attributes.find? key := by
  rw [find?_enhance, find?_setsAttributes_of_notMem h, Option.none_or]

theorem agreeOn_enhance {keys : List String} (h : ∀ key ∈ keys, key ∉ m.writes) :
    AgreeOn keys (m.enhance n).1.attributes n.attributes :=
  fun key hkey => find?_enhance_of_notMem (h key hkey)

/-! ## Two matches -/

/-- **Matches that keep off each other's keys commute.** If neither of two matches reads or writes a
key that the other one writes, then a node comes out the same whichever of them is made first, and
each of them does the same to it in either order. -/
theorem enhance_comm {x y : AttributeMatch} (hxy : ∀ key ∈ x.reads, key ∉ y.writes)
    (hyx : ∀ key ∈ y.reads, key ∉ x.writes) (hwrites : ∀ key ∈ x.writes, key ∉ y.writes)
    (n : Node) :
    (y.enhance (x.enhance n).1).1 = (x.enhance (y.enhance n).1).1 ∧
      (x.enhance n).2 = (x.enhance (y.enhance n).1).2 ∧
      (y.enhance (x.enhance n).1).2 = (y.enhance n).2 := by
  have hx : AgreeOn x.reads (y.enhance n).1.attributes n.attributes := agreeOn_enhance hxy
  have hy : AgreeOn y.reads (x.enhance n).1.attributes n.attributes := agreeOn_enhance hyx
  refine ⟨Node.ext_find? ?_ (fun key => ?_) (fun tag => ?_), (outcome_congr hx).symm,
    outcome_congr hy⟩
  · simp only [name_enhance]
  · rw [find?_enhance, find?_enhance, find?_enhance, find?_enhance, setsAttributes_congr hx,
      setsAttributes_congr hy]
    -- At most one of the two sets this key, and that one has the last word in both orders.
    by_cases hkey : key ∈ x.writes
    · rw [find?_setsAttributes_of_notMem (hwrites key hkey), Option.none_or, Option.none_or]
    · rw [find?_setsAttributes_of_notMem hkey, Option.none_or, Option.none_or]
  · rw [mem_tags_enhance, mem_tags_enhance, mem_tags_enhance, mem_tags_enhance, setsTags_congr hx,
      setsTags_congr hy]
    exact or_left_comm

/-- The second match asks that its own key is absent and tags as the first one does; both are made
in either order. -/
theorem enhance_comm_owner :
    ∃ (x y : AttributeMatch) (n : Node),
      (∀ key ∈ x.reads, key ∉ y.writes) ∧ (∀ key ∈ y.reads, key ∉ x.writes) ∧
      (∀ key ∈ x.writes, key ∉ y.writes) ∧
      (x.enhance n).2 = .enriched 1 2 ∧ (y.enhance n).2 = .enriched 1 1 ∧
      (y.enhance (x.enhance n).1).1 = (x.enhance (y.enhance n).1).1 ∧
      (x.enhance n).2 = (x.enhance (y.enhance n).1).2 ∧
      (y.enhance (x.enhance n).1).2 = (y.enhance n).2 := by
  let x : AttributeMatch :=
    ⟨RuleSet.empty.addCondition "role" (.equals "web"),
      ⟨StringMap.ofList [("tier", "${env}-web")]⟩, ⟨["web", "${env}"]⟩, true⟩
  let y : AttributeMatch :=
    ⟨(RuleSet.empty.addCondition "owner" .absent).addCondition "env" .present,
      ⟨StringMap.ofList [("owner", "ops")]⟩, ⟨["web"]⟩, false⟩
  let n : Node := ⟨"n", StringMap.ofList [("role", "web"), ("env", "prod")], ∅⟩
  have hxy : ∀ key ∈ x.reads, key ∉ y.writes := by decide
  have hyx : ∀ key ∈ y.reads, key ∉ x.writes := by decide
  have hwrites : ∀ key ∈ x.writes, key ∉ y.writes := by decide
  exact ⟨x, y, n, hxy, hyx, hwrites, by decide, by decide, enhance_comm hxy hyx hwrites n⟩

end AttributeMatch

end Enrich
