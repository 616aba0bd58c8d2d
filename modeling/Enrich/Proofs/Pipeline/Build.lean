import Enrich.Config.Load
import Enrich.Pipeline
import Enrich.Proofs.AttributeMatch.Settings
import Enrich.Proofs.Enhancer.Registry
import Enrich.Proofs.Pipeline.Repeat
import Enrich.Proofs.Pipeline.Stages

/-!
# What a built pipeline was made from

A pipeline is built only if every enabled entry gives an enhancer. For an attribute match this asks
for settings of the right types, with one gap: a number that is not finite is taken for a text that
was not written (`build_typed_iff`, `build_not_a_number`).
-/

namespace Enrich

namespace AttributeMatch

variable {t : Toml.Table} {m : AttributeMatch}

theorem ofJson_membersToJson_eq_ok_iff :
    ofJson (.obj (Toml.membersToJson t)) = .ok m ↔
      ∃ s, Settings.Writes t s ∧ ofSettings s = .ok m := by
  unfold ofJson
  simp only [bind_eq_ok, mapError_eq_ok, Settings.ofJson_membersToJson_iff]

end AttributeMatch

/-- Whether a registry has the built-in attribute match under its name. -/
def Registry.ProvidesAttributeMatch (r : Registry) : Prop :=
  ∀ settings, r.create AttributeMatch.provider settings =
    (AttributeMatch.ofJson settings).map AttributeMatch.toEnhancer

theorem Registry.providesAttributeMatch_registerBuiltIn (r : Registry) :
    r.registerBuiltIn.ProvidesAttributeMatch := by
  intro settings
  exact create_register_self settings

/-- Whether an enhancer that a registry makes of an entry is always the attribute match that the
settings of the entry describe. -/
def Registry.MakesMatch (r : Registry) (e : Config.Entry) : Prop :=
  ∀ enhancer, r.create e.provider (.obj (Toml.membersToJson e.settings)) = .ok enhancer →
    ∃ m, AttributeMatch.ofJson (.obj (Toml.membersToJson e.settings)) = .ok m ∧
      enhancer = m.toEnhancer

/-- Of the providers that come built in, an entry can only name that of the attribute match. -/
theorem Registry.MakesMatch.builtIn (e : Config.Entry) : Registry.builtIn.MakesMatch e := by
  intro enhancer hcreate
  by_cases hprovider : e.provider = AttributeMatch.provider
  · rw [hprovider, Registry.builtIn, providesAttributeMatch_registerBuiltIn, map_eq_ok] at hcreate
    obtain ⟨m, hm, hmade⟩ := hcreate
    exact ⟨m, hm, hmade.symm⟩
  · have hunknown : e.provider ∉ Registry.empty.providers := List.not_mem_nil
    rw [Registry.builtIn, registerBuiltIn, create_register_of_ne hprovider,
      create_of_notMem hunknown] at hcreate
    cases hcreate

namespace Pipeline

variable {r : Registry} {c : Config} {p : Pipeline} {e : Config.Entry}
  {entries : List Config.Entry} {index : Nat} {stages : List Stage}

theorem exists_stage_of_buildStages (h : buildStages r index entries = .ok stages)
    (he : e ∈ entries) (henabled : e.enabled = true) :
    ∃ stage ∈ stages,
      r.create e.provider (.obj (Toml.membersToJson e.settings)) = .ok stage.enhancer := by
  have hmem : e ∈ entries.filter (·.enabled) := List.mem_filter.mpr ⟨he, henabled⟩
  have hmade := forall₂_enhancerOf (buildStages_eq_ok_iff.mp h)
  clear h
  generalize entries.filter (·.enabled) = enabled at hmem hmade
  induction hmade with
  | nil => cases hmem
  | @cons stage other stages _ hother _ ih =>
    rcases List.mem_cons.mp hmem with rfl | hmem
    · exact ⟨stage, List.mem_cons_self, hother⟩
    · obtain ⟨found, hfound, hcreate⟩ := ih hmem
      exact ⟨found, List.mem_cons_of_mem _ hfound, hcreate⟩

/-- An enabled attribute match of a pipeline that could be built has settings written. -/
theorem exists_settings_of_build (hr : r.ProvidesAttributeMatch) (h : build r c = .ok p)
    (he : e ∈ c.entries) (henabled : e.enabled = true)
    (hprovider : e.provider = AttributeMatch.provider) :
    ∃ s m, AttributeMatch.Settings.Writes e.settings s ∧ AttributeMatch.ofSettings s = .ok m ∧
      ∃ stage ∈ p.stages, stage.enhancer = m.toEnhancer := by
  obtain ⟨stages, hstages, rfl⟩ := map_eq_ok.mp h
  obtain ⟨stage, hstage, hcreate⟩ := exists_stage_of_buildStages hstages he henabled
  rw [hprovider, hr, map_eq_ok] at hcreate
  obtain ⟨m, hm, hmade⟩ := hcreate
  obtain ⟨s, hs, hofSettings⟩ := AttributeMatch.ofJson_membersToJson_eq_ok_iff.mp hm
  exact ⟨s, m, hs, hofSettings, stage, hstage, hmade.symm⟩

/-! ## Pipelines of attribute matches -/

theorem exists_matches_of_forall₂ {named : List (Config.Entry × Nat)}
    (hr : ∀ e ∈ named.map Prod.fst, r.MakesMatch e)
    (h : List.Forall₂ (IsStageOf r) stages named) :
    ∃ ms, stages = (ofMatches ms).stages ∧ ∀ m ∈ ms.map Prod.snd, ∃ e ∈ named.map Prod.fst,
      AttributeMatch.ofJson (.obj (Toml.membersToJson e.settings)) = .ok m := by
  induction h with
  | nil => exact ⟨[], rfl, by simp⟩
  | @cons stage entry stages named hstage _ ih =>
    obtain ⟨hfirst, hothers⟩ := List.forall_mem_cons.mp hr
    obtain ⟨ms, rfl, hms⟩ := ih hothers
    obtain ⟨name, enhancer⟩ := stage
    obtain ⟨m, hm, rfl⟩ := hfirst enhancer hstage.2
    refine ⟨(name, m) :: ms, rfl, List.forall_mem_cons.mpr ⟨?_, fun other hother => ?_⟩⟩
    · exact ⟨entry.1, List.mem_cons_self, hm⟩
    · obtain ⟨e, he, hmade⟩ := hms other hother
      exact ⟨e, List.mem_cons_of_mem _ he, hmade⟩

/-- If attribute matches are made of the enabled entries, the stages are those matches. -/
theorem exists_matches_of_buildStages
    (hr : ∀ e ∈ entries, e.enabled = true → r.MakesMatch e)
    (h : buildStages r index entries = .ok stages) :
    ∃ ms, stages = (ofMatches ms).stages ∧ ∀ m ∈ ms.map Prod.snd,
      ∃ e ∈ entries, e.enabled = true ∧
        AttributeMatch.ofJson (.obj (Toml.membersToJson e.settings)) = .ok m := by
  have henabled : ∀ e ∈ (enabledFrom index entries).map Prod.fst, r.MakesMatch e := by
    intro e he
    rw [map_fst_enabledFrom, List.mem_filter] at he
    exact hr e he.1 he.2
  obtain ⟨ms, hstages, hms⟩ := exists_matches_of_forall₂ henabled (buildStages_eq_ok_iff.mp h)
  refine ⟨ms, hstages, fun m hm => ?_⟩
  obtain ⟨e, he, hmade⟩ := hms m hm
  rw [map_fst_enabledFrom, List.mem_filter] at he
  exact ⟨e, he.1, he.2, hmade⟩

theorem exists_matches_of_build (hr : ∀ e ∈ c.entries, e.enabled = true → r.MakesMatch e)
    (h : build r c = .ok p) :
    ∃ ms, p = ofMatches ms ∧ ∀ m ∈ ms.map Prod.snd, ∃ e ∈ c.entries, e.enabled = true ∧
      AttributeMatch.ofJson (.obj (Toml.membersToJson e.settings)) = .ok m := by
  obtain ⟨stages, hstages, rfl⟩ := map_eq_ok.mp h
  obtain ⟨ms, rfl, hms⟩ := exists_matches_of_buildStages hr hstages
  exact ⟨ms, rfl, hms⟩

/-- A pipeline made with nothing but what comes built in is a row of attribute matches. -/
theorem exists_ofMatches_of_build (h : build .builtIn c = .ok p) : ∃ ms, p = ofMatches ms := by
  obtain ⟨ms, hp, -⟩ := exists_matches_of_build (fun e _ _ => .builtIn e) h
  exact ⟨ms, hp⟩

/-! ## Types of the settings -/

/-- **The types of the settings are checked, except for numbers that are not finite.** If a pipeline
could be built, then the settings of each of its enabled attribute matches have the right types if
and only if none of the optional texts is written as a number that is not finite. -/
theorem build_typed_iff (hr : r.ProvidesAttributeMatch) (h : build r c = .ok p)
    (he : e ∈ c.entries) (henabled : e.enabled = true)
    (hprovider : e.provider = AttributeMatch.provider) :
    AttributeMatch.Settings.Typed e.settings ↔ ∀ name ∈ ["add", "add_tags"], ∀ x,
      Toml.member? name e.settings = some (.float x) → ∃ y, x = .finite y := by
  obtain ⟨s, -, hs, -⟩ := exists_settings_of_build hr h he henabled hprovider
  exact hs.typed_iff

/-- Texts and a flag have the right types. -/
theorem build_typed_iff_texts :
    ∃ (e : Config.Entry) (p : Pipeline), Registry.builtIn.ProvidesAttributeMatch ∧
      build .builtIn ⟨"1.0", [e]⟩ = .ok p ∧ e.enabled = true ∧
      e.provider = AttributeMatch.provider ∧ AttributeMatch.Settings.Typed e.settings := by
  have hr : Registry.builtIn.ProvidesAttributeMatch :=
    Registry.providesAttributeMatch_registerBuiltIn .empty
  have hbuilds : (build .builtIn ⟨"1.0", [⟨AttributeMatch.provider, none, true,
      [("add", .string "b=2"), ("enable_substitution", .boolean true),
        ("match", .string "a==1")]⟩]⟩).isOk = true := by
    decide +kernel
  obtain ⟨p, hbuild⟩ := exists_eq_ok_of_isOk hbuilds
  have htyped := build_typed_iff hr hbuild List.mem_cons_self rfl rfl
  refine ⟨_, p, hr, hbuild, rfl, rfl, htyped.mpr ?_⟩
  intro name hname x hx
  simp only [List.mem_cons, List.not_mem_nil, or_false] at hname
  rcases hname with rfl | rfl
  · simp [Toml.member?] at hx
  · simp [Toml.member?] at hx

/-! ## A number that is none -/

/-- Whether a table writes the number that is none under a name. -/
def writesNotANumber (name : String) (t : Toml.Table) : Bool :=
  match Toml.member? name t with
  | some (.float .notANumber) => true
  | _ => false

theorem not_typed_of_writesNotANumber {t : Toml.Table} (h : writesNotANumber "add" t = true) :
    ¬ AttributeMatch.Settings.Typed t := by
  intro ht
  unfold writesNotANumber at h
  split at h
  · next hadd =>
    obtain ⟨s, hs⟩ := ht.add _ hadd
    cases hs
  · cases h

/-- A config whose one entry has a number that is none for the attributes to add. -/
def notANumberText : String :=
  "[[enhancers]]\nprovider = \"attribute-match\"\n[enhancers.config]\nmatch = \"\"\nadd = nan\n"

/-- The pipeline of a config can be built although the attributes to add are no text there. -/
theorem build_not_a_number :
    ∃ c p e, Config.parse notANumberText = .ok c ∧ build .builtIn c = .ok p ∧ e ∈ c.entries ∧
      e.enabled = true ∧ e.provider = AttributeMatch.provider ∧
      ¬ AttributeMatch.Settings.Typed e.settings := by
  -- Configs cannot be compared, so what is evaluated is a test of the one that is read.
  have hchecked : ((Config.parse notANumberText).toOption.any fun c =>
      (build .builtIn c).isOk && c.entries.any fun e =>
        e.enabled && e.provider == AttributeMatch.provider &&
          writesNotANumber "add" e.settings) = true := by
    decide +kernel
  cases hparse : Config.parse notANumberText with
  | error cause =>
    rw [hparse] at hchecked
    cases hchecked
  | ok c =>
    rw [hparse] at hchecked
    obtain ⟨hbuilds, hentry⟩ := Bool.and_eq_true_iff.mp hchecked
    obtain ⟨p, hbuild⟩ := exists_eq_ok_of_isOk hbuilds
    obtain ⟨e, he, hprops⟩ := List.any_eq_true.mp hentry
    simp only [Bool.and_eq_true, beq_iff_eq] at hprops
    obtain ⟨⟨henabled, hprovider⟩, hadd⟩ := hprops
    exact ⟨c, p, e, rfl, hbuild, he, henabled, hprovider, not_typed_of_writesNotANumber hadd⟩

end Pipeline

end Enrich
