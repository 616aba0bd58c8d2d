import Enrich.Proofs.Pipeline.Report
import Enrich.Proofs.Template.Generated

/-!
# What a pipeline leaves in place

However often a pipeline of attribute matches is applied, no node is lost, moved or renamed, and no
node loses a tag or an attribute. The attributes that change are among those that the settings of
the enabled entries add, under the keys as they are written there (`applyEach_extends`). What one
match keeps, a row of them keeps, and so does any number of applications: `Node.ExtendsWithin`.
-/

namespace Enrich

/-! ## Nodes that keep what they have -/

namespace Node

variable {may : String → Prop} {before after last : Node} {key : String}

/-- Whether a node came from another one by adding tags and by setting attributes under keys that
may be set. -/
structure ExtendsWithin (may : String → Prop) (before after : Node) : Prop extends
    before.Extends after where
  frame : ∀ key, ¬ may key → after.attributes.find? key = before.attributes.find? key

namespace ExtendsWithin

theorem refl (may : String → Prop) (n : Node) : n.ExtendsWithin may n where
  toExtends := .refl n
  frame _ _ := rfl

theorem trans (h : before.ExtendsWithin may after) (h' : after.ExtendsWithin may last) :
    before.ExtendsWithin may last where
  toExtends := h.toExtends.trans h'.toExtends
  frame key hkey := (h'.frame key hkey).trans (h.frame key hkey)

theorem mem_keys (h : before.ExtendsWithin may after) (hkey : key ∈ before.attributes.keys) :
    key ∈ after.attributes.keys := by
  rw [StringMap.mem_keys_iff] at hkey ⊢
  exact fun hnone => hkey (h.keys key hnone)

/-- A key of the last node is one of the first or one that may be set. -/
theorem mem_keys_or (h : before.ExtendsWithin may after) (hkey : key ∈ after.attributes.keys) :
    key ∈ before.attributes.keys ∨ may key := by
  by_cases hmay : may key
  · exact .inr hmay
  · rw [StringMap.mem_keys_iff, h.frame key hmay, ← StringMap.mem_keys_iff] at hkey
    exact .inl hkey

end ExtendsWithin

end Node

/-! ## What is written to be added -/

namespace Config

/-- Whether the settings of an entry write an attribute to add under a key. -/
def Entry.Adds (e : Entry) (key : String) : Prop :=
  ∃ text es, Toml.member? "add" e.settings = some (.string text) ∧
    Template.WritesEntries (some text) es ∧ key ∈ es.map Prod.fst

/-- Whether an enabled entry of a config writes an attribute to add under a key. -/
def Adds (c : Config) (key : String) : Prop :=
  ∃ e ∈ c.entries, e.enabled = true ∧ e.Adds key

end Config

namespace AttributeMatch

variable {m : AttributeMatch} {s : Settings} {e : Config.Entry} {key : String}

/-- The keys that a match writes are those of the entries in its settings. -/
theorem mem_writes_iff (h : ofSettings s = .ok m) :
    key ∈ m.writes ↔ ∃ es, Template.WritesEntries s.add es ∧ key ∈ es.map Prod.fst := by
  obtain ⟨-, hparse, -⟩ := ofSettings_eq_ok_iff.mp h
  constructor
  · intro hkey
    obtain ⟨es, hes, hm⟩ := Template.AttributeTemplates.parse_eq_ok_iff.mp hparse
    rw [writes, hm, StringMap.mem_keys_ofList] at hkey
    exact ⟨es, hes, hkey⟩
  · rintro ⟨es, hes, hkey⟩
    rw [Template.AttributeTemplates.parse_eq_ok_iff.mpr ⟨es, hes, rfl⟩, Except.ok.injEq] at hparse
    rw [writes, ← hparse, StringMap.mem_keys_ofList]
    exact hkey

theorem Settings.WritesText.eq_string {v : Option Toml.Value} {text : String}
    (h : WritesText v (some text)) : v = some (.string text) := by
  cases h
  rfl

theorem adds_of_mem_writes (hs : Settings.Writes e.settings s) (hm : ofSettings s = .ok m)
    (hkey : key ∈ m.writes) : e.Adds key := by
  obtain ⟨es, hes, hmem⟩ := (mem_writes_iff hm).mp hkey
  have hadd := hs.add
  cases htext : s.add with
  | none =>
    rw [htext] at hes
    cases hes
    cases hmem
  | some text =>
    rw [htext] at hes hadd
    exact ⟨text, es, hadd.eq_string, hes, hmem⟩

theorem extendsWithin_enhanceAll {may : String → Prop} {ms : List AttributeMatch}
    (h : ∀ m ∈ ms, ∀ key ∈ m.writes, may key) (n : Node) :
    n.ExtendsWithin may (enhanceAll ms n) where
  toExtends := extends_enhanceAll ms n
  frame key hkey := find?_enhanceAll_of_notMem fun m hm hmem => hkey (h m hm key hmem)

end AttributeMatch

/-! ## Pipelines -/

open AttributeMatch

namespace Pipeline

variable {r : Registry} {c : Config} {p : Pipeline}

/-- The nodes after a pipeline was applied again and again, once for each of some projects. -/
def applyEach (p : Pipeline) (projects : List String) (nodes : List Node) : List Node :=
  projects.foldl (fun nodes project => (p.apply project nodes).1) nodes

theorem forall₂_applyEach {may : String → Prop} {ms : List (String × AttributeMatch)}
    (h : ∀ m ∈ ms.map Prod.snd, ∀ key ∈ m.writes, may key) (projects : List String)
    (nodes : List Node) :
    List.Forall₂ (Node.ExtendsWithin may) nodes ((ofMatches ms).applyEach projects nodes) := by
  induction projects generalizing nodes with
  | nil => exact List.forall₂_same.mpr fun n _ => .refl may n
  | cons project projects ih =>
    rw [applyEach, List.foldl_cons, apply_ofMatches]
    have hlater := List.forall₂_map_left_iff.mp (ih (nodes.map (enhanceAll (ms.map Prod.snd))))
    exact hlater.imp fun n _ hn => (extendsWithin_enhanceAll h n).trans hn

/-- **A pipeline of attribute matches only adds.** However often it is applied, the nodes stay as
many and in the same order. Each keeps its name, its tags and the keys of its attributes. A key
that is new is one that an enabled entry writes among the attributes to add, and under all other
keys the attributes stay as they were. -/
theorem applyEach_extends (hr : ∀ e ∈ c.entries, e.enabled = true → r.MakesMatch e)
    (h : build r c = .ok p) (projects : List String) (nodes : List Node) :
    List.Forall₂
      (fun before after : Node =>
        after.name = before.name ∧ (∀ tag ∈ before.tags, tag ∈ after.tags) ∧
        (∀ key ∈ before.attributes.keys, key ∈ after.attributes.keys) ∧
        (∀ key ∈ after.attributes.keys, key ∈ before.attributes.keys ∨ c.Adds key) ∧
        ∀ key, ¬ c.Adds key → after.attribute? key = before.attribute? key)
      nodes (p.applyEach projects nodes) := by
  obtain ⟨ms, rfl, hms⟩ := exists_matches_of_build hr h
  have hadds : ∀ m ∈ ms.map Prod.snd, ∀ key ∈ m.writes, c.Adds key := by
    intro m hm key hkey
    obtain ⟨e, he, henabled, hmade⟩ := hms m hm
    obtain ⟨s, hs, hofSettings⟩ := ofJson_membersToJson_eq_ok_iff.mp hmade
    exact ⟨e, he, henabled, adds_of_mem_writes hs hofSettings hkey⟩
  refine (forall₂_applyEach hadds projects nodes).imp fun before after hn => ?_
  exact ⟨hn.name, hn.tags, fun key => hn.mem_keys, fun key => hn.mem_keys_or, hn.frame⟩

/-- The second round reads what the first one wrote; an attribute that only a disabled entry adds
stays as it was. -/
theorem applyEach_extends_rounds :
    ∃ (c : Config) (p : Pipeline) (nodes : List Node),
      (∀ e ∈ c.entries, e.enabled = true → Registry.builtIn.MakesMatch e) ∧
      build .builtIn c = .ok p ∧ ¬ c.Adds "a" ∧
      (p.applyEach ["x", "y"] nodes).map (·.attribute? "k") = [some "1-1-", some "--"] ∧
      List.Forall₂ (fun before after : Node => after.name = before.name ∧
        after.attribute? "a" = before.attribute? "a") nodes (p.applyEach ["x", "y"] nodes) := by
  let c : Config := ⟨"1.0", [
    ⟨AttributeMatch.provider, none, true, [("add", .string "k=$\x7ba\x7d-$\x7bk\x7d"),
      ("enable_substitution", .boolean true), ("match", .string "")]⟩,
    ⟨AttributeMatch.provider, none, false, [("add", .string "a=2"), ("match", .string "")]⟩]⟩
  let nodes : List Node := [⟨"m", StringMap.ofList [("a", "1")], ∅⟩, ⟨"n", ∅, ∅⟩]
  have hr : ∀ e ∈ c.entries, e.enabled = true → Registry.builtIn.MakesMatch e :=
    fun e _ _ => .builtIn e
  have hadds : ¬ c.Adds "a" := by
    rintro ⟨e, he, henabled, text, es, hadd, hes, hkey⟩
    rcases List.mem_cons.mp he with rfl | he
    · have htext : text = "k=$\x7ba\x7d-$\x7bk\x7d" := by simpa [Toml.member?, eq_comm] using hadd
      have hparse : Properties.parse text = .ok [("k", "$\x7ba\x7d-$\x7bk\x7d")] := by
        rw [htext]
        decide +kernel
      cases hes with
      | blank => cases hkey
      | entries _ hes =>
        rw [hparse] at hes
        cases hes
        simp at hkey
    · rw [List.mem_singleton.mp he] at henabled
      cases henabled
  have hchecked : ((build .builtIn c).toOption.any fun p =>
      (p.applyEach ["x", "y"] nodes).map (·.attribute? "k") == [some "1-1-", some "--"]) =
        true := by
    decide +kernel
  cases hbuild : build .builtIn c with
  | error cause =>
    rw [hbuild] at hchecked
    cases hchecked
  | ok p =>
    rw [hbuild] at hchecked
    refine ⟨c, p, nodes, hr, hbuild, hadds, eq_of_beq hchecked, ?_⟩
    exact (applyEach_extends hr hbuild ["x", "y"] nodes).imp fun before after hn =>
      ⟨hn.1, hn.2.2.2.2 "a" hadds⟩

end Pipeline

end Enrich
