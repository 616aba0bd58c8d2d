import Enrich.Proofs.AttributeMatch.Footprint
import Enrich.Proofs.Pipeline.Apply

/-!
# Applying a pipeline twice

If no attribute match of a pipeline reads a key that it or a later one writes, then the pipeline
changes nothing when it is applied again (`apply_twice`). The second run starts from other nodes
than the first. What carries over is `Node.Between`: before every match, the node of the second run
lies between the node of the first run at the same point and the node that the first run ends with.
There a match reads what it read before.
-/

namespace Enrich

open StringMap (AgreeOn)

namespace AttributeMatch

variable {m : AttributeMatch} {ms : List AttributeMatch} {n : Node} {key tag : String}

/-- The node after some matches, one after the other. -/
def enhanceAll (ms : List AttributeMatch) (n : Node) : Node :=
  ms.foldl (fun n m => (m.enhance n).1) n

/-- Whether no match reads a key that it or a later one writes. -/
def ReadOnlyEarlier (ms : List AttributeMatch) : Prop :=
  ∀ front m back, ms = front ++ m :: back →
    ∀ later ∈ m :: back, ∀ key ∈ m.reads, key ∉ later.writes

theorem readOnlyEarlier_nil : ReadOnlyEarlier [] := by
  intro front m back h
  cases front <;> cases h

theorem readOnlyEarlier_cons : ReadOnlyEarlier (m :: ms) ↔
    (∀ later ∈ m :: ms, ∀ key ∈ m.reads, key ∉ later.writes) ∧ ReadOnlyEarlier ms :=
  forall_split_cons fun _ (m : AttributeMatch) back =>
    ∀ later ∈ m :: back, ∀ key ∈ m.reads, key ∉ later.writes

/-! ## What a row of matches leaves alone -/

theorem enhanceAll_cons : enhanceAll (m :: ms) n = enhanceAll ms (m.enhance n).1 := rfl

theorem name_enhanceAll : (enhanceAll ms n).name = n.name := by
  induction ms generalizing n with
  | nil => rfl
  | cons m ms ih => rw [enhanceAll_cons, ih, name_enhance]

theorem find?_enhanceAll_of_notMem (h : ∀ m ∈ ms, key ∉ m.writes) :
    (enhanceAll ms n).attributes.find? key = n.attributes.find? key := by
  induction ms generalizing n with
  | nil => rfl
  | cons m ms ih =>
    obtain ⟨hm, hms⟩ := List.forall_mem_cons.mp h
    rw [enhanceAll_cons, ih hms, find?_enhance_of_notMem hm]

theorem mem_tags_enhanceAll (h : tag ∈ n.tags) : tag ∈ (enhanceAll ms n).tags := by
  induction ms generalizing n with
  | nil => exact h
  | cons m ms ih => exact ih (mem_tags_enhance.mpr (.inr h))

end AttributeMatch

open AttributeMatch

/-! ## Nodes between two states -/

namespace Node

/-- Whether a node lies between two states of it: under each key it has the value of one of them,
and its tags are at least those of the first and at most those of the last. -/
structure Between (first last n : Node) : Prop where
  name : n.name = first.name
  attributes : ∀ key, n.attributes.find? key = first.attributes.find? key ∨
    n.attributes.find? key = last.attributes.find? key
  tags_of_first : ∀ tag ∈ first.tags, tag ∈ n.tags
  tags_in_last : ∀ tag ∈ n.tags, tag ∈ last.tags

namespace Between

variable {m : AttributeMatch} {ms : List AttributeMatch} {first last n : Node}

theorem eq (h : Between first first n) : n = first :=
  ext_find? h.name (fun key => (h.attributes key).elim id id)
    fun tag => ⟨h.tags_in_last tag, h.tags_of_first tag⟩

theorem of_run : Between first (enhanceAll ms first) (enhanceAll ms first) where
  name := name_enhanceAll
  attributes _ := .inr rfl
  tags_of_first _ := mem_tags_enhanceAll
  tags_in_last _ := id

theorem agreeOn_reads (h : Between first last n)
    (hagree : AgreeOn m.reads last.attributes first.attributes) :
    AgreeOn m.reads n.attributes first.attributes := by
  intro key hkey
  rcases h.attributes key with hn | hn
  · exact hn
  · rw [hn, hagree key hkey]

/-- A match that reads the same on both nodes keeps the one between the other and the last state. -/
theorem enhance (h : Between first last n)
    (hagree : AgreeOn m.reads n.attributes first.attributes)
    (htags : ∀ tag ∈ (m.enhance first).1.tags, tag ∈ last.tags) :
    Between (m.enhance first).1 last (m.enhance n).1 where
  name := by rw [name_enhance, name_enhance, h.name]
  attributes key := by
    rw [find?_enhance, find?_enhance, setsAttributes_congr hagree]
    -- What the match sets it sets to one value on both nodes; elsewhere they stay as they were.
    cases (m.setsAttributes first.attributes).find? key with
    | none => exact h.attributes key
    | some value => exact .inl rfl
  tags_of_first tag htag := by
    rw [mem_tags_enhance] at htag ⊢
    rw [setsTags_congr hagree]
    exact htag.imp_right (h.tags_of_first tag)
  tags_in_last tag htag := by
    rw [mem_tags_enhance, setsTags_congr hagree] at htag
    rcases htag with htag | htag
    · exact htags tag (mem_tags_enhance.mpr (.inl htag))
    · exact h.tags_in_last tag htag

end Between

end Node

/-- From a node between the start and the end of a run, the matches lead to the same end. -/
theorem AttributeMatch.enhanceAll_of_between {ms : List AttributeMatch} {first n : Node}
    (h : ReadOnlyEarlier ms) (hbetween : first.Between (enhanceAll ms first) n) :
    enhanceAll ms n = enhanceAll ms first := by
  induction ms generalizing first n with
  | nil => exact hbetween.eq
  | cons m ms ih =>
    obtain ⟨hm, hms⟩ := readOnlyEarlier_cons.mp h
    -- Nothing from here to the end of the run writes what `m` reads.
    have hlast : AgreeOn m.reads (enhanceAll (m :: ms) first).attributes first.attributes :=
      fun key hkey => find?_enhanceAll_of_notMem fun later hlater => hm later hlater key hkey
    have htags : ∀ tag ∈ (m.enhance first).1.tags, tag ∈ (enhanceAll (m :: ms) first).tags := by
      intro tag htag
      rw [enhanceAll_cons]
      exact mem_tags_enhanceAll htag
    exact ih hms (hbetween.enhance (hbetween.agreeOn_reads hlast) htags)

/-! ## Pipelines of attribute matches -/

namespace Pipeline

variable {project : String} {ms : List (String × AttributeMatch)} {n : Node}

/-- The pipeline of some attribute matches under their display names. -/
def ofMatches (ms : List (String × AttributeMatch)) : Pipeline :=
  ⟨ms.map fun (name, m) => ⟨name, m.toEnhancer⟩⟩

theorem foldStages_ofMatches :
    foldStages project (ofMatches ms).stages n = enhanceAll (ms.map Prod.snd) n := by
  induction ms generalizing n with
  | nil => rfl
  | cons m ms ih => exact ih

theorem passes_ofMatches : Passes project (ofMatches ms).stages n := by
  induction ms generalizing n with
  | nil => exact passes_nil
  | cons m ms ih => exact passes_cons.mpr ⟨rfl, ih⟩

theorem apply_ofMatches (ms : List (String × AttributeMatch)) (project : String)
    (nodes : List Node) :
    (ofMatches ms).apply project nodes =
      (nodes.map (enhanceAll (ms.map Prod.snd)),
        .ok ⟨nodes.length, nodes.countP fun n => enhanceAll (ms.map Prod.snd) n ≠ n⟩) := by
  rw [apply_of_passes fun n _ => passes_ofMatches]
  simp only [foldStages_ofMatches, Prod.mk.injEq, and_true]
  exact List.map_congr_left fun n _ => foldStages_ofMatches

/-- **A second run changes nothing.** If no attribute match of a pipeline reads a key that it or a
later one writes, then applying the pipeline to the nodes it gave leaves all of them as they are and
counts none as enriched. -/
theorem apply_twice (h : ReadOnlyEarlier (ms.map Prod.snd)) (project : String)
    (nodes : List Node) :
    ∃ after stats, (ofMatches ms).apply project nodes = (after, .ok stats) ∧
      (ofMatches ms).apply project after = (after, .ok ⟨nodes.length, 0⟩) := by
  refine ⟨_, _, apply_ofMatches ms project nodes, ?_⟩
  have hfixed : ∀ n ∈ nodes.map (enhanceAll (ms.map Prod.snd)),
      enhanceAll (ms.map Prod.snd) n = n := by
    intro n hn
    obtain ⟨first, -, rfl⟩ := List.mem_map.mp hn
    exact enhanceAll_of_between h .of_run
  have hnone : (nodes.map (enhanceAll (ms.map Prod.snd))).countP
      (fun n => enhanceAll (ms.map Prod.snd) n ≠ n) = 0 := by
    rw [List.countP_eq_zero]
    intro n hn
    simpa using hfixed n hn
  rw [apply_ofMatches, hnone, List.length_map, List.map_congr_left hfixed, List.map_id']

/-- The second match reads what the first one writes and writes over another of its values. -/
theorem apply_twice_overwriting :
    ∃ (ms : List (String × AttributeMatch)) (n : Node),
      ReadOnlyEarlier (ms.map Prod.snd) ∧
      ((ofMatches ms).apply "x" [n]).2.toOption = some ⟨1, 1⟩ ∧
      ∃ after stats, (ofMatches ms).apply "x" [n] = (after, .ok stats) ∧
        (ofMatches ms).apply "x" after = (after, .ok ⟨1, 0⟩) := by
  let roles : AttributeMatch :=
    ⟨RuleSet.empty.addCondition "role" (.equals "web"),
      ⟨StringMap.ofList [("tier", "front-${zone}"), ("env", "${zone}")]⟩, ⟨["${role}"]⟩, true⟩
  let tiers : AttributeMatch :=
    ⟨RuleSet.empty.addCondition "tier" .present,
      ⟨StringMap.ofList [("env", "prod")]⟩, ⟨["tier-${tier}"]⟩, true⟩
  let n : Node := ⟨"n", StringMap.ofList [("role", "web"), ("env", "dev"), ("zone", "a")], ∅⟩
  have h : ReadOnlyEarlier [roles, tiers] := by
    refine readOnlyEarlier_cons.mpr ⟨by decide, readOnlyEarlier_cons.mpr ⟨by decide, ?_⟩⟩
    exact readOnlyEarlier_nil
  refine ⟨[("roles", roles), ("tiers", tiers)], n, h, by decide, ?_⟩
  exact @apply_twice [("roles", roles), ("tiers", tiers)] h "x" [n]

end Pipeline

end Enrich
