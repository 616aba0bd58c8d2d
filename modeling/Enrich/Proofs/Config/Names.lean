import Enrich.Config.Basic
import Mathlib.Data.List.Nodup

/-!
# Display names of a valid config

The entries of a config are looked at one after the other, with the display names of those before
them at hand. So no flaw is found if and only if every entry has a provider and no display name
occurs twice, be the entries enabled or not (`flaw?_eq_none_iff`).
-/

namespace Enrich.Config

variable {c : Config} {e : Entry} {entries : List Entry} {seen : Std.TreeSet String} {index : Nat}
  {name : String}

/-- The display names of some entries, given how many entries come before them. -/
def displayNamesFrom (index : Nat) (entries : List Entry) : List String :=
  (entries.zipIdx index).map fun (e, i) => e.displayName i

theorem displayNames_eq : c.displayNames = displayNamesFrom 0 c.entries :=
  List.mapIdx_eq_zipIdx_map

theorem displayNamesFrom_cons : displayNamesFrom index (e :: entries) =
    e.displayName index :: displayNamesFrom (index + 1) entries := by
  rw [displayNamesFrom, List.zipIdx_cons, List.map_cons]
  rfl

theorem contains_insert_eq_false_iff {other : String} :
    (seen.insert name).contains other = false ↔ name ≠ other ∧ seen.contains other = false := by
  rw [Std.TreeSet.contains_insert, Bool.or_eq_false_iff, beq_eq_false_iff_ne, ne_eq,
    Std.compare_eq_iff_eq]

theorem firstFlaw?_eq_none_iff : firstFlaw? seen index entries = none ↔
    (∀ e ∈ entries, Text.allBlank e.provider = false) ∧
      (displayNamesFrom index entries).Nodup ∧
      ∀ name ∈ displayNamesFrom index entries, seen.contains name = false := by
  induction entries generalizing seen index with
  | nil => simp [firstFlaw?, displayNamesFrom]
  | cons e entries ih =>
    rw [firstFlaw?, displayNamesFrom_cons]
    by_cases hblank : Text.allBlank e.provider = true
    · simp [hblank]
    · by_cases hseen : seen.contains (e.displayName index) = true
      · simp [hblank, hseen]
      · -- A later entry may repeat neither a name seen before nor the one that is added here.
        simp only [hblank, hseen, Bool.false_eq_true, if_false, ih, contains_insert_eq_false_iff,
          List.forall_mem_cons, List.nodup_cons]
        constructor
        · rintro ⟨hproviders, hdistinct, hfresh⟩
          refine ⟨⟨trivial, hproviders⟩, ⟨fun hmem => ?_, hdistinct⟩, trivial, fun name hname => ?_⟩
          · exact (hfresh _ hmem).1 rfl
          · exact (hfresh name hname).2
        · rintro ⟨⟨-, hproviders⟩, ⟨hnot, hdistinct⟩, -, hfresh⟩
          refine ⟨hproviders, hdistinct, fun name hname => ⟨?_, hfresh name hname⟩⟩
          rintro rfl
          exact hnot hname

/-- A config has no flaw if and only if its version is the supported one, every entry has a provider
and no display name occurs twice. -/
theorem flaw?_eq_none_iff : c.flaw? = none ↔
    c.version = supportedVersion ∧ (∀ e ∈ c.entries, Text.allBlank e.provider = false) ∧
      c.displayNames.Nodup := by
  unfold flaw?
  rw [displayNames_eq]
  split
  · next hversion => simp [hversion]
  · next hversion =>
    rw [not_not] at hversion
    rw [firstFlaw?_eq_none_iff, and_iff_right hversion]
    simp [Std.TreeSet.contains_emptyc]

end Enrich.Config
