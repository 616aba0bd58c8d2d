import Enrich.Pipeline
import Enrich.Proofs.Config.Names
import Enrich.Proofs.Except
import Mathlib.Data.List.Forall2

/-!
# The stages of a config

Building a pipeline goes through the entries of a config in order. Each enabled entry gives one stage
under its display name, or the error with which it all ends; an entry that is not enabled counts only
for the position of the others. So the pipeline is read off the entries one by one
(`buildStages_eq_ok_iff`), and so is the error (`buildStages_eq_error_iff`).
-/

namespace Enrich

/-- The enhancer that a registry makes of an entry with its settings. -/
def Registry.enhancerOf (r : Registry) (e : Config.Entry) : Except EnhancerError Enhancer :=
  r.create e.provider (.obj (Toml.membersToJson e.settings))

namespace Pipeline

open Config (Entry)

variable {r : Registry} {c : Config} {e e' : Entry} {entries entries' : List Entry} {index : Nat}
  {stages : List Stage} {enhancer : Enhancer} {cause : EnhancerError} {err : BuildError}

/-! ## One entry -/

theorem buildStages_cons_disabled (h : ¬ e.enabled = true) :
    buildStages r index (e :: entries) = buildStages r (index + 1) entries := by
  rw [buildStages, if_neg h]

theorem buildStages_cons_made (h : e.enabled = true) (hmade : r.enhancerOf e = .ok enhancer) :
    buildStages r index (e :: entries) =
      (buildStages r (index + 1) entries).map (⟨e.displayName index, enhancer⟩ :: ·) := by
  rw [buildStages, if_pos h]
  rw [Registry.enhancerOf] at hmade
  rw [hmade]

theorem buildStages_cons_failed (h : e.enabled = true) (hfailed : r.enhancerOf e = .error cause) :
    buildStages r index (e :: entries) = .error ⟨e.displayName index, cause⟩ := by
  rw [buildStages, if_pos h]
  rw [Registry.enhancerOf] at hfailed
  rw [hfailed]

/-! ## All entries -/

/-- The enabled ones of some entries, each with the number of entries before it. -/
def enabledFrom (index : Nat) (entries : List Entry) : List (Entry × Nat) :=
  (entries.zipIdx index).filter fun (e, _) => e.enabled

theorem enabledFrom_cons_of_neg (h : ¬ e.enabled = true) :
    enabledFrom index (e :: entries) = enabledFrom (index + 1) entries :=
  List.filter_cons_of_neg h

theorem enabledFrom_cons_of_pos (h : e.enabled = true) :
    enabledFrom index (e :: entries) = (e, index) :: enabledFrom (index + 1) entries :=
  List.filter_cons_of_pos h

/-- Whether a stage is made of an entry with so many entries before it. -/
def IsStageOf (r : Registry) (stage : Stage) (entry : Entry × Nat) : Prop :=
  stage.name = entry.1.displayName entry.2 ∧ r.enhancerOf entry.1 = .ok stage.enhancer

theorem buildStages_eq_ok_iff : buildStages r index entries = .ok stages ↔
    List.Forall₂ (IsStageOf r) stages (enabledFrom index entries) := by
  induction entries generalizing index stages with
  | nil =>
    rw [buildStages, Except.ok.injEq, eq_comm]
    exact List.forall₂_nil_right_iff.symm
  | cons e entries ih =>
    by_cases henabled : e.enabled = true
    · rw [enabledFrom_cons_of_pos henabled, List.forall₂_cons_right_iff]
      cases hcreate : r.enhancerOf e with
      | error cause =>
        rw [buildStages_cons_failed henabled hcreate]
        refine iff_of_false (fun h => by cases h) ?_
        rintro ⟨stage, _, ⟨-, hmade⟩, -, -⟩
        rw [hcreate] at hmade
        cases hmade
      | ok enhancer =>
        rw [buildStages_cons_made henabled hcreate, map_eq_ok]
        constructor
        · rintro ⟨rest, hrest, rfl⟩
          exact ⟨_, rest, ⟨rfl, hcreate⟩, ih.mp hrest, rfl⟩
        · rintro ⟨⟨name, made⟩, rest, ⟨rfl, hmade⟩, hrest, rfl⟩
          rw [hcreate] at hmade
          cases hmade
          exact ⟨rest, ih.mpr hrest, rfl⟩
    · rw [buildStages_cons_disabled henabled, enabledFrom_cons_of_neg henabled, ih]

theorem exists_buildStages_iff : (∃ stages, buildStages r index entries = .ok stages) ↔
    ∀ e ∈ entries, e.enabled = true → ∃ enhancer, r.enhancerOf e = .ok enhancer := by
  induction entries generalizing index with
  | nil => simp [buildStages]
  | cons e entries ih =>
    rw [List.forall_mem_cons, ← @ih (index + 1)]
    by_cases henabled : e.enabled = true
    · cases hcreate : r.enhancerOf e with
      | error cause => simp [buildStages_cons_failed henabled hcreate, henabled]
      | ok enhancer => simp [buildStages_cons_made henabled hcreate, map_eq_ok]
    · rw [buildStages_cons_disabled henabled, and_iff_right fun h => absurd h henabled]

/-- Whether an error is that of the first enabled entry of which no enhancer can be made, under the
display name of that entry. -/
def IsFirstFailure (r : Registry) (index : Nat) (entries : List Entry) (err : BuildError) : Prop :=
  ∃ front e back, entries = front ++ e :: back ∧
    (∀ earlier ∈ front, earlier.enabled = true →
      ∃ enhancer, r.enhancerOf earlier = .ok enhancer) ∧
    e.enabled = true ∧ r.enhancerOf e = .error err.cause ∧
    err.name = e.displayName (index + front.length)

theorem isFirstFailure_cons : IsFirstFailure r index (e :: entries) err ↔
    (e.enabled = true ∧ r.enhancerOf e = .error err.cause ∧ err.name = e.displayName index) ∨
      (e.enabled = true → ∃ enhancer, r.enhancerOf e = .ok enhancer) ∧
        IsFirstFailure r (index + 1) entries err := by
  constructor
  · rintro ⟨front, failing, back, hentries, hfront, hfailing⟩
    cases front with
    | nil =>
      cases hentries
      exact .inl hfailing
    | cons first front =>
      cases hentries
      obtain ⟨hfirst, hfront⟩ := List.forall_mem_cons.mp hfront
      have hposition : index + 1 + front.length = index + (e :: front).length := by
        rw [List.length_cons]
        omega
      exact .inr ⟨hfirst, front, failing, back, rfl, hfront, hposition ▸ hfailing⟩
  · rintro (hfailing | ⟨hfirst, front, failing, back, rfl, hfront, hfailing⟩)
    · exact ⟨[], e, entries, rfl, by simp, hfailing⟩
    · have hposition : index + (e :: front).length = index + 1 + front.length := by
        rw [List.length_cons]
        omega
      exact ⟨e :: front, failing, back, rfl, List.forall_mem_cons.mpr ⟨hfirst, hfront⟩,
        hposition ▸ hfailing⟩

theorem buildStages_eq_error_iff :
    buildStages r index entries = .error err ↔ IsFirstFailure r index entries err := by
  induction entries generalizing index with
  | nil =>
    refine iff_of_false (fun h => by cases h) ?_
    rintro ⟨front, e, back, hentries, -⟩
    cases front <;> cases hentries
  | cons e entries ih =>
    rw [isFirstFailure_cons, ← ih]
    by_cases henabled : e.enabled = true
    · cases hcreate : r.enhancerOf e with
      | error cause =>
        rw [buildStages_cons_failed henabled hcreate]
        obtain ⟨name, found⟩ := err
        simp [henabled, and_comm, eq_comm]
      | ok enhancer =>
        rw [buildStages_cons_made henabled hcreate, map_eq_error_iff]
        simp
    · rw [buildStages_cons_disabled henabled]
      simp [henabled]

/-! ## Entries that are not enabled -/

/-- Whether two entries are both enabled and equal, or both not enabled. -/
def SameIfEnabled (e e' : Entry) : Prop :=
  e.enabled = e'.enabled ∧ (e.enabled = true → e = e')

theorem buildStages_congr (h : List.Forall₂ SameIfEnabled entries entries') :
    buildStages r index entries = buildStages r index entries' := by
  induction h generalizing index with
  | nil => rfl
  | @cons e e' entries entries' he _ ih =>
    obtain ⟨hboth, hsame⟩ := he
    by_cases henabled : e.enabled = true
    · rw [hsame henabled, buildStages, buildStages, ih]
    · rw [buildStages_cons_disabled henabled, buildStages_cons_disabled (hboth ▸ henabled), ih]

/-! ## Pipelines -/

theorem map_name_of_forall₂ {named : List (Entry × Nat)}
    (h : List.Forall₂ (IsStageOf r) stages named) :
    stages.map Stage.name = named.map fun (e, i) => e.displayName i := by
  rw [← List.forall₂_eq_eq_eq, List.forall₂_map_left_iff, List.forall₂_map_right_iff]
  exact h.imp fun _ _ hstage => hstage.1

theorem map_fst_enabledFrom :
    (enabledFrom index entries).map Prod.fst = entries.filter (·.enabled) := by
  conv_rhs => rw [← List.zipIdx_map_fst index entries, List.filter_map]
  rfl

theorem forall₂_enhancerOf
    (h : List.Forall₂ (IsStageOf r) stages (enabledFrom index entries)) :
    List.Forall₂ (fun stage e => r.enhancerOf e = .ok stage.enhancer) stages
      (entries.filter (·.enabled)) := by
  rw [← @map_fst_enabledFrom _ index, List.forall₂_map_right_iff]
  exact h.imp fun _ _ hstage => hstage.2

theorem nodup_map_enabledFrom (h : (Config.displayNamesFrom index entries).Nodup) :
    ((enabledFrom index entries).map fun (e, i) => e.displayName i).Nodup :=
  h.sublist (List.filter_sublist.map _)

/-- **A pipeline follows the entries of its config.** It can be built if and only if an enhancer can
be made of every enabled entry with its settings. Then it has one stage for each of them, in order
and under its display name; an entry without a name is shown by its provider and its position among
all entries, and no name is shown twice. Else the error is that of the first enabled entry of which
no enhancer can be made, under its display name. What is written in entries that are not enabled
makes no difference, neither to the pipeline nor to the error. -/
theorem build_follows_entries (hvalid : c.flaw? = none) (r : Registry) :
    ((∃ p, build r c = .ok p) ↔
      ∀ e ∈ c.entries, e.enabled = true → ∃ enhancer, r.enhancerOf e = .ok enhancer) ∧
    (∀ p, build r c = .ok p →
      p.stageNames = (enabledFrom 0 c.entries).map
        (fun (e, i) => e.name.getD (e.provider ++ "#" ++ toString (i + 1))) ∧
      p.stageNames.Nodup ∧
      List.Forall₂ (fun stage e => r.enhancerOf e = .ok stage.enhancer) p.stages
        (c.entries.filter (·.enabled))) ∧
    (∀ err, build r c = .error err ↔ IsFirstFailure r 0 c.entries err) ∧
    ∀ c' : Config, List.Forall₂ SameIfEnabled c.entries c'.entries → build r c' = build r c := by
  have hdistinct : (Config.displayNamesFrom 0 c.entries).Nodup := by
    rw [← Config.displayNames_eq]
    exact (Config.flaw?_eq_none_iff.mp hvalid).2.2
  refine ⟨?_, fun p hp => ?_, fun err => ?_, fun c' hentries => ?_⟩
  · constructor
    · rintro ⟨p, hp⟩
      obtain ⟨stages, hstages, -⟩ := map_eq_ok.mp hp
      exact exists_buildStages_iff.mp ⟨stages, hstages⟩
    · intro hmade
      have hstages : ∃ stages, buildStages r 0 c.entries = .ok stages :=
        exists_buildStages_iff.mpr hmade
      obtain ⟨stages, hstages⟩ := hstages
      exact ⟨⟨stages⟩, map_eq_ok.mpr ⟨stages, hstages, rfl⟩⟩
  · obtain ⟨stages, hstages, rfl⟩ := map_eq_ok.mp hp
    have hmade := buildStages_eq_ok_iff.mp hstages
    have hnames := map_name_of_forall₂ hmade
    refine ⟨hnames, ?_, forall₂_enhancerOf hmade⟩
    rw [stageNames, hnames]
    exact nodup_map_enabledFrom hdistinct
  · rw [build, map_eq_error_iff, buildStages_eq_error_iff]
  · rw [build, build, buildStages_congr hentries]

/-- An entry of a provider that is not registered does no harm while it is not enabled: the entry
without a name behind it is the second one, and another name for it changes nothing. Enabled, it is
the error. -/
theorem build_follows_entries_disabled :
    ∃ c c' bad : Config, c.flaw? = none ∧ c'.flaw? = none ∧ bad.flaw? = none ∧
      List.Forall₂ SameIfEnabled c.entries c'.entries ∧
      (∃ p, build .builtIn c = .ok p ∧ p.stageNames = ["attribute-match#2", "last"] ∧
        p.stageNames.Nodup ∧ build .builtIn c' = .ok p) ∧
      build .builtIn bad = .error ⟨"icons", .unknownProvider "icon"⟩ := by
  let first : Entry := ⟨AttributeMatch.provider, none, true, [("match", .string "a==1")]⟩
  let last : Entry := ⟨AttributeMatch.provider, some "last", true, [("match", .string "")]⟩
  let c : Config := ⟨"1.0", [⟨"icon", some "icons", false, []⟩, first, last]⟩
  let c' : Config := ⟨"1.0", [⟨"x", none, false, [("match", .boolean true)]⟩, first, last]⟩
  let bad : Config := ⟨"1.0", [first, ⟨"icon", some "icons", true, []⟩, last]⟩
  have hc : c.flaw? = none := by decide +kernel
  have hc' : c'.flaw? = none := by decide +kernel
  have hbad : bad.flaw? = none := by decide +kernel
  have hsame : List.Forall₂ SameIfEnabled c.entries c'.entries :=
    .cons ⟨rfl, fun h => by cases h⟩ (.cons ⟨rfl, fun _ => rfl⟩ (.cons ⟨rfl, fun _ => rfl⟩ .nil))
  have hfirst : ∃ enhancer, Registry.builtIn.enhancerOf first = .ok enhancer :=
    exists_eq_ok_of_isOk (by decide +kernel)
  have hlast : ∃ enhancer, Registry.builtIn.enhancerOf last = .ok enhancer :=
    exists_eq_ok_of_isOk (by decide +kernel)
  obtain ⟨hmade, hstages, -, hothers⟩ := build_follows_entries hc .builtIn
  obtain ⟨p, hp⟩ := hmade.mpr (by simp [c, hfirst, hlast])
  obtain ⟨hnames, hdistinct, -⟩ := hstages p hp
  obtain ⟨-, -, hfailure, -⟩ := build_follows_entries hbad .builtIn
  refine ⟨c, c', bad, hc, hc', hbad, hsame, ⟨p, hp, hnames.trans rfl, hdistinct, ?_⟩, ?_⟩
  · rw [hothers c' hsame, hp]
  · rw [hfailure]
    exact ⟨[first], _, [last], rfl, by simp [hfirst], rfl, rfl, rfl⟩

end Pipeline

end Enrich
