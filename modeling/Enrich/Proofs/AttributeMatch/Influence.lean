import Enrich.Enhancer.Basic
import Enrich.Proofs.AttributeMatch.Footprint

/-!
# What has a say in a match

Whether a match is made depends on the values under the keys of its rules, and what it adds on the
texts of its placeholders. A rule tells a missing value from an empty one, a placeholder does not.
Nothing else of a node, and no project, makes a difference (`update_decided`).

So a match whose placeholders ask for no key that it writes makes the same again when it is repeated,
even if its rules ask for what it has just written over: the second time it changes nothing
(`enhance_enhance`).
-/

namespace Enrich.AttributeMatch

open StringMap (AgreeOn)
open Template (AgreeInText)

variable {m : AttributeMatch} {a : Attributes} {n n' : Node} {key value tag project : String}

/-! ## What a match sets -/

theorem find?_setsAttributes_eq_some_iff : (m.setsAttributes a).find? key = some value ↔
    m.evaluate a = true ∧ (m.newAttributes a).find? key = some value := by
  unfold setsAttributes
  split
  · next heval => exact (and_iff_right heval).symm
  · next heval =>
    refine iff_of_false ?_ fun h => heval h.1
    intro h
    cases h

theorem mem_setsTags_iff : tag ∈ m.setsTags a ↔ m.evaluate a = true ∧ tag ∈ m.newTags a := by
  unfold setsTags
  split
  · next heval => exact (and_iff_right heval).symm
  · next heval => exact iff_of_false (StringSet.not_mem_empty tag) fun h => heval h.1

/-- What is set is all that happens to a node. -/
theorem fst_enhance : (m.enhance n).1 =
    (n.mergeAttributes (m.setsAttributes n.attributes)).addTags (m.setsTags n.attributes) := by
  unfold enhance setsAttributes setsTags
  split
  · rfl
  · rfl

theorem update_eq : m.toEnhancer.update project n =
    ((n.mergeAttributes (m.setsAttributes n.attributes)).addTags (m.setsTags n.attributes), none) :=
  congrArg (·, none) fst_enhance

/-! ## Nodes that look alike -/

/-- **Nothing else has a say.** Take two nodes with the same values under the keys of the rules and,
if placeholders are filled, the same texts under their names. Then the rules hold for both or for
neither, the same attributes and tags are made for both, and in whatever projects the two are
updated, what is set on the one is set on the other. -/
theorem update_decided (hrules : AgreeOn m.rules.keys n.attributes n'.attributes)
    (htexts : m.substitute = true → AgreeInText m.placeholders n.attributes n'.attributes) :
    m.evaluate n.attributes = m.evaluate n'.attributes ∧
      (m.enhance n).2 = (m.enhance n').2 ∧
      m.newAttributes n.attributes = m.newAttributes n'.attributes ∧
      m.newTags n.attributes = m.newTags n'.attributes ∧
      ∀ project project',
        m.toEnhancer.update project n = ((n.mergeAttributes (m.setsAttributes n.attributes)).addTags
          (m.setsTags n.attributes), none) ∧
        m.toEnhancer.update project' n' =
          ((n'.mergeAttributes (m.setsAttributes n.attributes)).addTags
            (m.setsTags n.attributes), none) := by
  have halike : m.LookAlike n.attributes n'.attributes := ⟨hrules, htexts⟩
  refine ⟨halike.evaluate_eq, halike.outcome_eq, newAttributes_congr htexts, newTags_congr htexts,
    fun project project' => ⟨update_eq, ?_⟩⟩
  rw [halike.setsAttributes_eq, halike.setsTags_eq]
  exact update_eq

/-- A rule asks that the owner is absent. The zone is empty on one node and missing on the other,
and the nodes have nothing else in common. -/
theorem update_decided_zone :
    ∃ (m : AttributeMatch) (n n' : Node),
      AgreeOn m.rules.keys n.attributes n'.attributes ∧
      (m.substitute = true → AgreeInText m.placeholders n.attributes n'.attributes) ∧
      n.attribute? "zone" ≠ n'.attribute? "zone" ∧ (m.enhance n).2 = .enriched 1 1 ∧
      (m.enhance n).2 = (m.enhance n').2 ∧
      m.newAttributes n.attributes = m.newAttributes n'.attributes ∧
      m.newTags n.attributes = m.newTags n'.attributes := by
  let m : AttributeMatch :=
    ⟨(RuleSet.empty.addCondition "owner" .absent).addCondition "env" (.equals "prod"),
      ⟨StringMap.ofList [("site", "a-$\x7bzone\x7d")]⟩, ⟨["$\x7bzone\x7d", "in-$\x7benv\x7d"]⟩, true⟩
  let n : Node := ⟨"n", StringMap.ofList [("env", "prod"), ("zone", "")], StringSet.ofList ["x"]⟩
  let n' : Node := ⟨"m", StringMap.ofList [("env", "prod"), ("site", "b")], ∅⟩
  have hrules : AgreeOn m.rules.keys n.attributes n'.attributes := by
    unfold AgreeOn
    decide
  have htexts : m.substitute = true → AgreeInText m.placeholders n.attributes n'.attributes := by
    unfold AgreeInText
    decide
  obtain ⟨-, houtcome, hattributes, htags, -⟩ := update_decided hrules htexts
  exact ⟨m, n, n', hrules, htexts, by decide, by decide, houtcome, hattributes, htags⟩

/-! ## Making a match again -/

/-- A match that sets only what a node has leaves the node as it is. -/
theorem enhance_eq_self
    (hattributes : ∀ key value, (m.setsAttributes n.attributes).find? key = some value →
      n.attributes.find? key = some value)
    (htags : ∀ tag ∈ m.setsTags n.attributes, tag ∈ n.tags) : (m.enhance n).1 = n := by
  refine Node.ext_find? name_enhance (fun key => ?_) (fun tag => ?_)
  · rw [find?_enhance]
    cases hset : (m.setsAttributes n.attributes).find? key with
    | none => exact Option.none_or
    | some value => exact (hattributes key value hset).symm
  · rw [mem_tags_enhance]
    exact or_iff_right_of_imp (htags tag)

theorem enhance_of_not_evaluate (h : ¬ m.evaluate n.attributes = true) :
    m.enhance n = (n, .skipped) :=
  if_neg h

/-- **A match that does not feed on itself settles at once.** If placeholders are not filled, or none
of them asks for a key that the match writes, then making the match again on the node it left changes
nothing, whether or not its rules still hold there. -/
theorem enhance_enhance
    (h : m.substitute = false ∨ ∀ name ∈ m.placeholders, name ∉ m.writes) (n : Node) :
    (m.enhance (m.enhance n).1).1 = (m.enhance n).1 := by
  by_cases heval : m.evaluate n.attributes = true
  · have htexts : m.substitute = true →
        AgreeInText m.placeholders (m.enhance n).1.attributes n.attributes := by
      intro hs
      rcases h with hoff | hnames
      · rw [hoff] at hs
        cases hs
      · exact Template.agreeInText_of_agreeOn (agreeOn_enhance hnames)
    -- Whatever is set now was made of the same texts, and so was set before.
    refine enhance_eq_self (fun key value hset => ?_) (fun tag hset => ?_)
    · obtain ⟨-, hnew⟩ := find?_setsAttributes_eq_some_iff.mp hset
      rw [newAttributes_congr htexts] at hnew
      rw [find?_enhance, find?_setsAttributes_eq_some_iff.mpr ⟨heval, hnew⟩, Option.some_or]
    · obtain ⟨-, hnew⟩ := mem_setsTags_iff.mp hset
      rw [newTags_congr htexts] at hnew
      exact mem_tags_enhance.mpr (.inl (mem_setsTags_iff.mpr ⟨heval, hnew⟩))
  · rw [enhance_of_not_evaluate heval, enhance_of_not_evaluate heval]

/-- The rules hold the first time and not the second, for the match writes over what they ask for. -/
theorem enhance_enhance_overwriting :
    ∃ (m : AttributeMatch) (n : Node),
      (m.substitute = false ∨ ∀ name ∈ m.placeholders, name ∉ m.writes) ∧
      (m.enhance n).2 = .enriched 1 1 ∧ (m.enhance (m.enhance n).1).2 = .skipped ∧
      (m.enhance (m.enhance n).1).1 = (m.enhance n).1 := by
  let m : AttributeMatch :=
    ⟨RuleSet.empty.addCondition "env" (.equals "dev"),
      ⟨StringMap.ofList [("env", "$\x7bzone\x7d")]⟩, ⟨["was-dev"]⟩, true⟩
  let n : Node := ⟨"n", StringMap.ofList [("env", "dev"), ("zone", "prod")], ∅⟩
  have h : m.substitute = false ∨ ∀ name ∈ m.placeholders, name ∉ m.writes := .inr (by decide)
  exact ⟨m, n, h, by decide, by decide, enhance_enhance h n⟩

end Enrich.AttributeMatch
