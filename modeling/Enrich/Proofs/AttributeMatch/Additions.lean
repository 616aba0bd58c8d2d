import Enrich.Proofs.AttributeMatch.Footprint
import Enrich.Proofs.AttributeMatch.Settings
import Enrich.Proofs.Template.Generated
import Mathlib.Data.Finset.Card

/-!
# What a match adds to a node

The settings of a match write entries and tokens. On a node that satisfies the rules, the last entry
under each key sets that attribute and each token adds a tag, and all of them are made of the
attributes that the node had before (`Enriches`). So nothing that is added can refer to anything else
that is added, and neither the order of the entries nor that of the tokens makes a difference, but
for which entry is the last one under its key (`enhance_enriches`).
-/

namespace Enrich

/-! ## Counting -/

theorem StringMap.size_eq_card {β : Type} (m : StringMap β) : m.size = m.keys.toFinset.card := by
  rw [keys, List.toFinset_card_of_nodup m.ordered.nodup, List.length_map]
  rfl

theorem StringMap.size_ofList {β : Type} (es : List (String × β)) :
    (ofList es).size = (es.map Prod.fst).toFinset.card := by
  have hkeys : (ofList es).keys.toFinset = (es.map Prod.fst).toFinset := by
    ext key
    rw [List.mem_toFinset, List.mem_toFinset, mem_keys_ofList]
  rw [size_eq_card, hkeys]

theorem StringSet.size_eq_card (s : StringSet) : s.size = s.toList.toFinset.card :=
  (List.toFinset_card_of_nodup s.ordered.nodup).symm

theorem StringMap.ofList_eq_of_isLast {β : Type} {es es' : List (String × β)}
    (h : ∀ key value, IsLast es key value ↔ IsLast es' key value) : ofList es = ofList es' := by
  refine ext_find? fun key => Option.ext fun value => ?_
  rw [find?_ofList_eq_some_iff, find?_ofList_eq_some_iff, h]

namespace AttributeMatch

open Template (Renders WritesEntries WritesTokens)

variable {m m' : AttributeMatch} {s : Settings} {n : Node} {es : List (String × String)}

/-! ## One node -/

/-- What a match did to a node that satisfies its rules, told by the entries and the tokens of its
settings. Each attribute comes from the last entry under its key and each tag from a token, and what
they come to is read off the node as it was before. -/
structure Enriches (substitute : Bool) (es : List (String × String)) (tokens : List String)
    (before after : Node) (outcome : Outcome) : Prop where
  name : after.name = before.name
  set : ∀ key ∈ es.map Prod.fst, ∃ template value, StringMap.IsLast es key template ∧
    Renders before.attributes substitute template value ∧ after.attribute? key = some value
  kept : ∀ key, key ∉ es.map Prod.fst → after.attribute? key = before.attribute? key
  counted : ∃ added : Finset String,
    (∀ tag, tag ∈ added ↔
      tag ≠ "" ∧ ∃ token ∈ tokens, Renders before.attributes substitute token tag) ∧
    (∀ tag, tag ∈ after.tags ↔ tag ∈ before.tags ∨ tag ∈ added) ∧
    outcome = .enriched (es.map Prod.fst).toFinset.card added.card

theorem enhance_of_evaluate (h : m.evaluate n.attributes = true) : m.enhance n =
    ((n.mergeAttributes (m.newAttributes n.attributes)).addTags (m.newTags n.attributes),
      .enriched (m.newAttributes n.attributes).size (m.newTags n.attributes).size) :=
  if_pos h

theorem mem_newTags_iff {attributes : Attributes} {tag : String} :
    tag ∈ m.newTags attributes ↔
      tag ≠ "" ∧ ∃ token ∈ m.tags.tokens, Renders attributes m.substitute token tag := by
  simp only [newTags, Template.mem_render, Template.renders_iff]

theorem find?_newAttributes {attributes : Attributes} {key : String} :
    (m.newAttributes attributes).find? key =
      (m.attributes.entries.find? key).map (Template.rendered attributes m.substitute) :=
  Template.find?_render

theorem size_newAttributes (hm : m.attributes = ⟨StringMap.ofList es⟩) (attributes : Attributes) :
    (m.newAttributes attributes).size = (es.map Prod.fst).toFinset.card := by
  have hkeys : (m.newAttributes attributes).keys = (StringMap.ofList es).keys := by
    rw [newAttributes, Template.AttributeTemplates.keys_render, hm]
  rw [StringMap.size_eq_card, hkeys, ← StringMap.size_eq_card, StringMap.size_ofList]

theorem enriches_enhance (hm : m.attributes = ⟨StringMap.ofList es⟩)
    (heval : m.evaluate n.attributes = true) :
    Enriches m.substitute es m.tags.tokens n (m.enhance n).1 (m.enhance n).2 where
  name := name_enhance
  set key hkey := by
    rw [← StringMap.mem_keys_ofList, StringMap.mem_keys_iff, Option.ne_none_iff_exists'] at hkey
    obtain ⟨template, hfound⟩ := hkey
    have hnew : (m.newAttributes n.attributes).find? key =
        some (Template.rendered n.attributes m.substitute template) := by
      rw [find?_newAttributes, hm, hfound, Option.map_some]
    refine ⟨template, _, StringMap.find?_ofList_eq_some_iff.mp hfound,
      Template.renders_iff.mpr rfl, ?_⟩
    rw [enhance_of_evaluate heval]
    exact (StringMap.find?_merge _ _ key).trans (by rw [hnew, Option.some_or])
  kept key hkey := by
    refine find?_enhance_of_notMem ?_
    rwa [writes, hm, StringMap.mem_keys_ofList]
  counted := by
    refine ⟨(m.newTags n.attributes).toList.toFinset, fun tag => ?_, fun tag => ?_, ?_⟩
    · rw [List.mem_toFinset]
      exact mem_newTags_iff
    · rw [enhance_of_evaluate heval, List.mem_toFinset]
      exact StringSet.mem_union
    · rw [enhance_of_evaluate heval, size_newAttributes hm, StringSet.size_eq_card]

/-! ## The order of what is written -/

/-- Matches with the same rules, the same templates and the same set of tokens do the same. -/
theorem enhance_congr_settings (hrules : m'.rules = m.rules)
    (hattributes : m'.attributes = m.attributes) (hsubstitute : m'.substitute = m.substitute)
    (htokens : ∀ token, token ∈ m'.tags.tokens ↔ token ∈ m.tags.tokens) (n : Node) :
    m'.enhance n = m.enhance n := by
  have heval : m'.evaluate n.attributes = m.evaluate n.attributes := by
    rw [evaluate, evaluate, hrules]
  have hnew : m'.newAttributes n.attributes = m.newAttributes n.attributes := by
    rw [newAttributes, newAttributes, hattributes, hsubstitute]
  have htags : m'.newTags n.attributes = m.newTags n.attributes := by
    refine StringSet.ext_mem fun tag => ?_
    simp only [mem_newTags_iff, htokens, hsubstitute]
  unfold enhance
  rw [heval, hnew, htags]

/-- **What a match does to a node.** If the rules do not hold, nothing. If they hold, the attributes
are those that the last entries under their keys come to and the tags are added that the tokens come
to, all of it read off the node as it was before; the rest stays as it was, and the outcome counts
the different keys and tags. Settings with the same rules, the same last entries and the same tokens,
in whatever order they are written, do the same to every node. -/
theorem enhance_enriches (h : ofSettings s = .ok m) :
    ∃ es tokens, RuleSet.parse s.rules = .ok m.rules ∧ WritesEntries s.add es ∧
      WritesTokens s.addTags tokens ∧
      (∀ n, m.rules.«matches» n.attributes = false → m.enhance n = (n, .skipped)) ∧
      (∀ n, m.rules.«matches» n.attributes = true →
        Enriches s.substitute es tokens n (m.enhance n).1 (m.enhance n).2) ∧
      ∀ s' m' es' tokens', ofSettings s' = .ok m' → s'.rules = s.rules →
        s'.substitute = s.substitute → WritesEntries s'.add es' → WritesTokens s'.addTags tokens' →
        (∀ key template, StringMap.IsLast es' key template ↔ StringMap.IsLast es key template) →
        (∀ token, token ∈ tokens' ↔ token ∈ tokens) → ∀ n, m'.enhance n = m.enhance n := by
  obtain ⟨hrules, hattributes, htags, hsubstitute⟩ := ofSettings_eq_ok_iff.mp h
  obtain ⟨es, hes, hm⟩ := Template.AttributeTemplates.parse_eq_ok_iff.mp hattributes
  refine ⟨es, m.tags.tokens, hrules, hes, htags ▸ Template.writesTokens_parse s.addTags,
    fun n hno => if_neg (Bool.eq_false_iff.mp hno),
    fun n hyes => hsubstitute ▸ enriches_enhance hm hyes, ?_⟩
  intro s' m' es' tokens' h' hsameRules hsameSubstitute hes' htokens' hlast htokens
  obtain ⟨hrules', hattributes', htags', hsubstitute'⟩ := ofSettings_eq_ok_iff.mp h'
  obtain ⟨_, hwritten, hm'⟩ := Template.AttributeTemplates.parse_eq_ok_iff.mp hattributes'
  cases hes'.eq hwritten
  refine enhance_congr_settings ?_ ?_ ?_ ?_
  · rw [hsameRules, hrules] at hrules'
    exact (Except.ok.inj hrules').symm
  · rw [hm', hm, StringMap.ofList_eq_of_isLast hlast]
  · rw [hsubstitute', hsameSubstitute, hsubstitute]
  · rw [htags', ← htokens'.eq_parse]
    exact htokens

/-- Settings whose entries and tokens ask for an attribute that one of the entries sets. -/
def selfReference : Settings :=
  ⟨"a==old", some "a=new\nb=1\nb=$\x7ba\x7d", some "$\x7ba\x7d, old ,$\x7bc\x7d", true⟩

/-- An entry and a token that ask for an attribute which another entry sets get its old value. -/
theorem enhance_enriches_snapshot :
    ∃ m es tokens, ofSettings selfReference = .ok m ∧
      WritesEntries selfReference.add es ∧ WritesTokens selfReference.addTags tokens ∧
      m.enhance ⟨"n", StringMap.ofList [("a", "old")], ∅⟩ =
        (⟨"n", StringMap.ofList [("a", "new"), ("b", "old")], StringSet.ofList ["old"]⟩,
          .enriched 2 1) ∧
      Enriches true es tokens ⟨"n", StringMap.ofList [("a", "old")], ∅⟩
        ⟨"n", StringMap.ofList [("a", "new"), ("b", "old")], StringSet.ofList ["old"]⟩
        (.enriched 2 1) := by
  have hchecked : ((ofSettings selfReference).toOption.any fun m =>
      m.rules.«matches» (StringMap.ofList [("a", "old")]) &&
      m.enhance ⟨"n", StringMap.ofList [("a", "old")], ∅⟩ ==
        (⟨"n", StringMap.ofList [("a", "new"), ("b", "old")], StringSet.ofList ["old"]⟩,
          .enriched 2 1)) = true := by
    decide +kernel
  cases hm : ofSettings selfReference with
  | error cause =>
    rw [hm] at hchecked
    cases hchecked
  | ok m =>
    rw [hm] at hchecked
    obtain ⟨hmatches, henhance⟩ := Bool.and_eq_true_iff.mp hchecked
    have henhance := eq_of_beq henhance
    obtain ⟨es, tokens, -, hes, htokens, -, henriches, -⟩ := enhance_enriches hm
    have hnode := henriches ⟨"n", StringMap.ofList [("a", "old")], ∅⟩ hmatches
    rw [henhance] at hnode
    exact ⟨m, es, tokens, rfl, hes, htokens, henhance, hnode⟩

end AttributeMatch

end Enrich
