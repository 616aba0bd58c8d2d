import Enrich.Proofs.Pipeline.Build

/-!
# Pipelines cut in two

A pipeline takes each node through all stages before it turns to the next node. As long as no stage
fails, this comes to the same as taking all nodes through a stage before the next one
(`apply_eq_applyByStage`), so the front stages may be applied to all nodes first and the others to
what they leave (`apply_append`). The stages of a config are those of its front entries and those of
its other entries (`exists_of_buildStages_append`), up to the names that entries without one are
shown under (`exists_buildStages_renumbered`), and these make no difference to what a stage does
(`apply_congr`). Attribute matches never fail, so the config of a pipeline of them may be cut
anywhere (`apply_split`). A part that is cut off may show one name twice where the whole config does
not (`flaw?_of_split`); with the names written out it does not either (`exists_valid_split`).
-/

namespace Enrich.Pipeline

open Config (Entry)

variable {project : String} {stage : Stage} {stages stages' front back : List Stage} {n : Node}
  {nodes : List Node} {r : Registry} {entries entries' : List Entry} {index : Nat}
  {c c₁ c₂ : Config} {p p' : Pipeline}

/-! ## Stages that do not fail -/

theorem passes_append : Passes project (front ++ back) n ↔
    Passes project front n ∧ Passes project back (foldStages project front n) := by
  induction front generalizing n with
  | nil => simp [passes_nil, foldStages]
  | cons stage front ih =>
    rw [List.cons_append, passes_cons, passes_cons, ih, and_assoc]
    rfl

theorem passes_singleton : Passes project [stage] n ↔ stage.error? project n = none := by
  rw [passes_cons]
  exact and_iff_left passes_nil

/-- Attribute matches do not fail, on whatever node. -/
theorem passes_of_build (hr : ∀ e ∈ c.entries, e.enabled = true → r.MakesMatch e)
    (h : build r c = .ok p) : Passes project p.stages n := by
  obtain ⟨ms, rfl, -⟩ := exists_matches_of_build hr h
  exact passes_ofMatches

theorem exists_stats (hr : ∀ e ∈ c.entries, e.enabled = true → r.MakesMatch e)
    (h : build r c = .ok p) (project : String) (nodes : List Node) :
    ∃ stats, p.apply project nodes = ((p.apply project nodes).1, .ok stats) := by
  rw [apply_of_passes fun _ _ => passes_of_build hr h]
  exact ⟨_, rfl⟩

/-! ## Names of stages -/

theorem runStages_congr (h : stages'.map Stage.enhancer = stages.map Stage.enhancer) :
    runStages project stages' n = runStages project stages n := by
  induction stages generalizing stages' n with
  | nil => rw [List.map_eq_nil_iff.mp h]
  | cons stage stages ih =>
    obtain ⟨stage', stages', rfl, hstage, hstages⟩ := List.map_eq_cons_iff.mp h
    simp only [runStages, hstage, ih hstages]

/-- The names of the stages make no difference to what a pipeline does. -/
theorem apply_congr (h : p'.stages.map Stage.enhancer = p.stages.map Stage.enhancer) :
    p'.apply project nodes = p.apply project nodes := by
  unfold apply
  generalize (⟨0, 0⟩ : Stats) = stats
  induction nodes generalizing stats with
  | nil => rfl
  | cons n nodes ih => simp only [applyFrom, runStages_congr h, ih]

/-! ## All nodes through one stage after the other -/

/-- The nodes after all of them were taken through each of some stages, each stage applied as a
pipeline of its own to what the one before it leaves. -/
def applyByStage (project : String) (stages : List Stage) (nodes : List Node) : List Node :=
  stages.foldl (fun nodes stage => (apply ⟨[stage]⟩ project nodes).1) nodes

/-- Front stages may be applied to all nodes before the others are applied to any. -/
theorem apply_append (h : ∀ n ∈ nodes, Passes project (front ++ back) n) :
    (apply ⟨front ++ back⟩ project nodes).1 =
      (apply ⟨back⟩ project (apply ⟨front⟩ project nodes).1).1 := by
  have hfront : ∀ n ∈ nodes, Passes project front n := fun n hn => (passes_append.mp (h n hn)).1
  have hback : ∀ n ∈ nodes.map (foldStages project front), Passes project back n := by
    intro after hafter
    obtain ⟨n, hn, rfl⟩ := List.mem_map.mp hafter
    exact (passes_append.mp (h n hn)).2
  rw [apply_of_passes h, apply_of_passes hfront, apply_of_passes hback, List.map_map]
  exact List.map_congr_left fun n _ => foldStages_append

/-- Node by node through all stages is stage by stage over all nodes. -/
theorem apply_eq_applyByStage (h : ∀ n ∈ nodes, Passes project stages n) :
    (apply ⟨stages⟩ project nodes).1 = applyByStage project stages nodes := by
  -- One stage is taken from the front, and the other stages start from the nodes it leaves.
  induction stages generalizing nodes with
  | nil =>
    rw [apply_of_passes h]
    exact List.map_id nodes
  | cons stage stages ih =>
    have hone : ∀ n ∈ nodes, Passes project [stage] n :=
      fun n hn => passes_singleton.mpr (passes_cons.mp (h n hn)).1
    have hothers : ∀ n ∈ (apply ⟨[stage]⟩ project nodes).1, Passes project stages n := by
      rw [apply_of_passes hone]
      intro after hafter
      obtain ⟨n, hn, rfl⟩ := List.mem_map.mp hafter
      exact (passes_cons.mp (h n hn)).2
    rw [applyByStage, List.foldl_cons, ← applyByStage, ← ih hothers]
    exact @apply_append project [stage] stages nodes h

/-! ## The stages of entries cut in two -/

theorem enabledFrom_append : enabledFrom index (entries ++ entries') =
    enabledFrom index entries ++ enabledFrom (index + entries.length) entries' := by
  rw [enabledFrom, List.zipIdx_append, List.filter_append]
  rfl

theorem exists_of_buildStages_append (h : buildStages r index (entries ++ entries') = .ok stages) :
    ∃ front back, buildStages r index entries = .ok front ∧
      buildStages r (index + entries.length) entries' = .ok back ∧ stages = front ++ back := by
  rw [buildStages_eq_ok_iff, enabledFrom_append] at h
  refine ⟨_, _, ?_, ?_, (List.take_append_drop (enabledFrom index entries).length stages).symm⟩
  · exact buildStages_eq_ok_iff.mpr (List.forall₂_take_append _ _ _ h)
  · exact buildStages_eq_ok_iff.mpr (List.forall₂_drop_append _ _ _ h)

theorem map_enhancerOf (h : buildStages r index entries = .ok stages) :
    (entries.filter (·.enabled)).map r.enhancerOf =
      (stages.map Stage.enhancer).map Except.ok := by
  rw [List.map_map, eq_comm, ← List.forall₂_eq_eq_eq, List.forall₂_map_left_iff,
    List.forall₂_map_right_iff]
  exact (forall₂_enhancerOf (buildStages_eq_ok_iff.mp h)).imp fun _ _ hstage => hstage.symm

/-- Entries that give stages give the same ones wherever they stand, up to their names. -/
theorem exists_buildStages_renumbered (h : buildStages r index entries = .ok stages)
    (index' : Nat) : ∃ stages', buildStages r index' entries = .ok stages' ∧
      stages'.map Stage.enhancer = stages.map Stage.enhancer := by
  have hmade : ∃ stages', buildStages r index' entries = .ok stages' :=
    exists_buildStages_iff.mpr (exists_buildStages_iff.mp ⟨stages, h⟩)
  obtain ⟨stages', h'⟩ := hmade
  refine ⟨stages', h', ?_⟩
  have hok : Function.Injective (Except.ok : Enhancer → Except EnhancerError Enhancer) :=
    fun _ _ => Except.ok.inj
  exact hok.list_map ((map_enhancerOf h').symm.trans (map_enhancerOf h))

/-- The pipelines of the two parts of a config have the stages of its own, up to names. -/
theorem exists_build_split (h : build r c = .ok p) (hcut : c.entries = c₁.entries ++ c₂.entries) :
    ∃ p₁ p₂ back, build r c₁ = .ok p₁ ∧ build r c₂ = .ok p₂ ∧
      p = ⟨p₁.stages ++ back⟩ ∧ p₂.stages.map Stage.enhancer = back.map Stage.enhancer := by
  obtain ⟨stages, hstages, rfl⟩ := map_eq_ok.mp h
  rw [hcut] at hstages
  obtain ⟨front, back, hfront, hback, rfl⟩ := exists_of_buildStages_append hstages
  obtain ⟨back', hback', hsame⟩ := exists_buildStages_renumbered hback 0
  exact ⟨⟨front⟩, ⟨back'⟩, back, map_eq_ok.mpr ⟨front, hfront, rfl⟩,
    map_eq_ok.mpr ⟨back', hback', rfl⟩, rfl, hsame⟩

/-! ## Valid parts -/

theorem displayNamesFrom_append : Config.displayNamesFrom index (entries ++ entries') =
    Config.displayNamesFrom index entries ++
      Config.displayNamesFrom (index + entries.length) entries' := by
  rw [Config.displayNamesFrom, List.zipIdx_append, List.map_append]
  rfl

/-- The front part of a valid config is valid. The other part is valid too, unless a name that one
of its entries is shown under there is also that of another. -/
theorem flaw?_of_split (h : c.flaw? = none) (hcut : c.entries = c₁.entries ++ c₂.entries)
    (h₁ : c₁.version = c.version) (h₂ : c₂.version = c.version) :
    c₁.flaw? = none ∧ (c₂.flaw? = none ↔ c₂.displayNames.Nodup) := by
  simp only [Config.flaw?_eq_none_iff, Config.displayNames_eq, h₁, h₂] at h ⊢
  obtain ⟨hversion, hproviders, hdistinct⟩ := h
  rw [hcut, displayNamesFrom_append] at hdistinct
  rw [hcut, List.forall_mem_append] at hproviders
  obtain ⟨hproviders₁, hproviders₂⟩ := hproviders
  refine ⟨⟨hversion, hproviders₁, hdistinct.of_append_left⟩, ?_⟩
  rw [and_iff_right hversion, and_iff_right hproviders₂]

/-- Some entries with the names written out that they are shown under, given how many entries come
before them. -/
def writeNames (index : Nat) : List Entry → List Entry
  | [] => []
  | e :: entries => { e with name := some (e.displayName index) } :: writeNames (index + 1) entries

theorem displayNamesFrom_writeNames (index' : Nat) :
    Config.displayNamesFrom index' (writeNames index entries) =
      Config.displayNamesFrom index entries := by
  induction entries generalizing index index' with
  | nil => rfl
  | cons e entries ih =>
    rw [writeNames, Config.displayNamesFrom_cons, Config.displayNamesFrom_cons, ih]
    rfl

theorem buildStages_writeNames (index' : Nat) :
    buildStages r index' (writeNames index entries) = buildStages r index entries := by
  induction entries generalizing index index' with
  | nil => rfl
  | cons e entries ih =>
    rw [writeNames, buildStages, buildStages, ih]
    rfl

theorem allBlank_provider_writeNames (h : ∀ e ∈ entries, Text.allBlank e.provider = false) :
    ∀ e ∈ writeNames index entries, Text.allBlank e.provider = false := by
  induction entries generalizing index with
  | nil => exact h
  | cons e entries ih =>
    obtain ⟨he, hentries⟩ := List.forall_mem_cons.mp h
    exact List.forall_mem_cons.mpr ⟨he, ih hentries⟩

/-- A valid config may be cut anywhere into two valid ones, if the names that the entries behind the
cut are shown under are written out. The stages are then the same, names and all. -/
theorem exists_valid_split (h : c.flaw? = none) (hcut : c.entries = entries ++ entries') :
    (⟨c.version, entries⟩ : Config).flaw? = none ∧
      (⟨c.version, writeNames entries.length entries'⟩ : Config).flaw? = none ∧
      ∀ p, build r c = .ok p → ∃ p₁ p₂, build r ⟨c.version, entries⟩ = .ok p₁ ∧
        build r ⟨c.version, writeNames entries.length entries'⟩ = .ok p₂ ∧
        p.stages = p₁.stages ++ p₂.stages := by
  refine ⟨?_, ?_, fun p hp => ?_⟩
  · exact (@flaw?_of_split c ⟨c.version, entries⟩ ⟨c.version, entries'⟩ h hcut rfl rfl).1
  · rw [Config.flaw?_eq_none_iff, Config.displayNames_eq] at h ⊢
    obtain ⟨hversion, hproviders, hdistinct⟩ := h
    rw [hcut, displayNamesFrom_append, Nat.zero_add] at hdistinct
    rw [hcut, List.forall_mem_append] at hproviders
    refine ⟨hversion, allBlank_provider_writeNames hproviders.2, ?_⟩
    rw [displayNamesFrom_writeNames]
    exact hdistinct.of_append_right
  · obtain ⟨stages, hstages, rfl⟩ := map_eq_ok.mp hp
    rw [hcut] at hstages
    obtain ⟨front, back, hfront, hback, rfl⟩ := exists_of_buildStages_append hstages
    refine ⟨⟨front⟩, ⟨back⟩, map_eq_ok.mpr ⟨front, hfront, rfl⟩, map_eq_ok.mpr ⟨back, ?_, rfl⟩, rfl⟩
    rw [buildStages_writeNames, ← hback, Nat.zero_add]

/-! ## Attribute matches -/

/-- **A config of attribute matches may be cut in two.** If its pipeline could be built, then so can
those of its front entries and of the others, whatever names entries without one are shown under
there. Applied to all nodes one after the other the two leave what the pipeline of the whole config
leaves, and this is what all nodes come to when they are taken through one stage after the other.
None of it fails. -/
theorem apply_split (hr : ∀ e ∈ c.entries, e.enabled = true → r.MakesMatch e)
    (h : build r c = .ok p) (hcut : c.entries = c₁.entries ++ c₂.entries) :
    ∃ p₁ p₂, build r c₁ = .ok p₁ ∧ build r c₂ = .ok p₂ ∧
      ∀ project nodes, ∃ between after stats₁ stats₂ stats,
        p₁.apply project nodes = (between, .ok stats₁) ∧
        p₂.apply project between = (after, .ok stats₂) ∧
        p.apply project nodes = (after, .ok stats) ∧
        applyByStage project p.stages nodes = after := by
  obtain ⟨p₁, p₂, back, h₁, h₂, rfl, hsame⟩ := exists_build_split h hcut
  refine ⟨p₁, p₂, h₁, h₂, fun project nodes => ?_⟩
  have hr₁ : ∀ e ∈ c₁.entries, e.enabled = true → r.MakesMatch e :=
    fun e he => hr e (hcut ▸ List.mem_append_left _ he)
  have hr₂ : ∀ e ∈ c₂.entries, e.enabled = true → r.MakesMatch e :=
    fun e he => hr e (hcut ▸ List.mem_append_right _ he)
  have hpasses : ∀ n ∈ nodes, Passes project (p₁.stages ++ back) n :=
    fun _ _ => passes_of_build hr h
  have hafter : (p₂.apply project (p₁.apply project nodes).1).1 =
      (apply ⟨p₁.stages ++ back⟩ project nodes).1 := by
    rw [apply_append hpasses]
    exact congrArg Prod.fst (apply_congr hsame)
  obtain ⟨stats₁, happly₁⟩ := exists_stats hr₁ h₁ project nodes
  obtain ⟨stats₂, happly₂⟩ := exists_stats hr₂ h₂ project (p₁.apply project nodes).1
  obtain ⟨stats, happly⟩ := exists_stats hr h project nodes
  rw [hafter] at happly₂
  exact ⟨_, _, stats₁, stats₂, stats, happly₁, happly₂, happly,
    (apply_eq_applyByStage hpasses).symm⟩

/-- The second entry is cut off from the first. It reads what the first one writes, and is the first
entry of its own part, so it is shown under another name there. -/
theorem apply_split_renumbered :
    ∃ (c c₁ c₂ : Config) (p p₁ p₂ : Pipeline) (between after : List Node),
      (∀ e ∈ c.entries, e.enabled = true → Registry.builtIn.MakesMatch e) ∧
      build .builtIn c = .ok p ∧ c.entries = c₁.entries ++ c₂.entries ∧
      build .builtIn c₁ = .ok p₁ ∧ build .builtIn c₂ = .ok p₂ ∧
      p.stageNames = ["attribute-match#1", "attribute-match#2"] ∧
      p₂.stageNames = ["attribute-match#1"] ∧
      (∃ stats, p₁.apply "x" [⟨"m", ∅, ∅⟩] = (between, .ok stats)) ∧
      (∃ stats, p₂.apply "x" between = (after, .ok stats)) ∧
      (∃ stats, p.apply "x" [⟨"m", ∅, ∅⟩] = (after, .ok stats)) ∧
      after.map (·.attribute? "b") = [some "2"] := by
  let first : Entry := ⟨AttributeMatch.provider, none, true,
    [("add", .string "a=1"), ("match", .string "")]⟩
  let second : Entry := ⟨AttributeMatch.provider, none, true,
    [("add", .string "b=2"), ("match", .string "a==1")]⟩
  let c : Config := ⟨"1.0", [first, second]⟩
  have hr : ∀ e ∈ c.entries, e.enabled = true → Registry.builtIn.MakesMatch e :=
    fun e _ _ => .builtIn e
  have hchecked : ((build .builtIn c).toOption.any fun p =>
      p.stageNames == ["attribute-match#1", "attribute-match#2"] &&
        (p.apply "x" [⟨"m", ∅, ∅⟩]).1.map (·.attribute? "b") == [some "2"]) = true := by
    decide +kernel
  have hback : ((build .builtIn ⟨"1.0", [second]⟩).toOption.any fun p =>
      p.stageNames == ["attribute-match#1"]) = true := by
    decide +kernel
  cases hbuild : build .builtIn c with
  | error cause =>
    rw [hbuild] at hchecked
    cases hchecked
  | ok p =>
    rw [hbuild] at hchecked
    obtain ⟨hnames, hattribute⟩ := Bool.and_eq_true_iff.mp hchecked
    obtain ⟨p₁, p₂, h₁, h₂, hsplit⟩ := @apply_split .builtIn c ⟨"1.0", [first]⟩ ⟨"1.0", [second]⟩
      p hr hbuild rfl
    rw [h₂] at hback
    obtain ⟨between, after, stats₁, stats₂, stats, happly₁, happly₂, happly, -⟩ :=
      hsplit "x" [⟨"m", ∅, ∅⟩]
    rw [happly] at hattribute
    exact ⟨c, ⟨"1.0", [first]⟩, ⟨"1.0", [second]⟩, p, p₁, p₂, between, after, hr, hbuild, rfl,
      h₁, h₂, eq_of_beq hnames, eq_of_beq hback, ⟨stats₁, happly₁⟩, ⟨stats₂, happly₂⟩,
      ⟨stats, happly⟩, eq_of_beq hattribute⟩

end Enrich.Pipeline
