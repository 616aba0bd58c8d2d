import Enrich.AttributeMatch.Basic
import Enrich.Proofs.AttributeMatch.Decoding
import Enrich.Toml.Basic

/-!
# Settings written as a table

The settings of an attribute match are read from the JSON form of a table. `Writes` says of the
table itself what settings it writes, member by member, and `ofJson_membersToJson_iff` that these
are the settings read. A number that is not finite has no JSON form of its own: as an optional text
it counts as if it was not written, and everywhere else it is an error. The match that settings make
has the rules and the templates of their texts (`ofSettings_eq_ok_iff`).
-/

namespace Enrich

namespace Toml.Value

theorem toJson_eq_str_iff {v : Value} {s : String} : v.toJson = .str s ↔ v = .string s := by
  cases v with
  | float x => cases x <;> simp [toJson, Number.toJson]
  | _ => simp [toJson]

theorem toJson_eq_bool_iff {v : Value} {b : Bool} : v.toJson = .bool b ↔ v = .boolean b := by
  cases v with
  | float x => cases x <;> simp [toJson, Number.toJson]
  | _ => simp [toJson]

theorem toJson_eq_null_iff {v : Value} :
    v.toJson = .null ↔ v = .float .notANumber ∨ ∃ negative, v = .float (.infinite negative) := by
  cases v with
  | float x => cases x <;> simp [toJson, Number.toJson]
  | _ => simp [toJson]

end Toml.Value

namespace AttributeMatch.Settings

open Toml (Value Table)

/-- The text that an optional member writes, if it writes one. -/
inductive WritesText : Option Value → Option String → Prop
  | missing : WritesText none none
  | text (s : String) : WritesText (some (.string s)) (some s)
  | notANumber : WritesText (some (.float .notANumber)) none
  | infinite (negative : Bool) : WritesText (some (.float (.infinite negative))) none

/-- The flag that an optional member writes. -/
inductive WritesFlag : Option Value → Bool → Prop
  | missing : WritesFlag none false
  | flag (b : Bool) : WritesFlag (some (.boolean b)) b

/-- The settings that a table writes. -/
structure Writes (t : Table) (s : Settings) : Prop where
  rules : Toml.member? "match" t = some (.string s.rules)
  add : WritesText (Toml.member? "add" t) s.add
  addTags : WritesText (Toml.member? "add_tags" t) s.addTags
  substitute : WritesFlag (Toml.member? "enable_substitution" t) s.substitute

/-- Whether the members of a table have the types of the settings: a text for the rules, and where
they are written, texts for what is added and a flag. -/
structure Typed (t : Table) : Prop where
  rules : ∃ s, Toml.member? "match" t = some (.string s)
  add : ∀ v, Toml.member? "add" t = some v → ∃ s, v = .string s
  addTags : ∀ v, Toml.member? "add_tags" t = some v → ∃ s, v = .string s
  substitute : ∀ v, Toml.member? "enable_substitution" t = some v → ∃ b, v = .boolean b

/-! ## One member -/

theorem holdsText_toJson_iff {v : Option Value} {s : Option String} :
    HoldsText (v.map Value.toJson) s ↔ WritesText v s := by
  constructor
  · intro h
    cases v with
    | none =>
      cases h
      exact .missing
    | some v =>
      rw [Option.map_some] at h
      generalize hj : v.toJson = j at h
      cases h with
      | null =>
        rcases Value.toJson_eq_null_iff.mp hj with rfl | ⟨negative, rfl⟩
        · exact .notANumber
        · exact .infinite negative
      | text t =>
        rw [Value.toJson_eq_str_iff.mp hj]
        exact .text t
  · rintro (_ | t | _ | _)
    · exact .missing
    · exact .text t
    · exact .null
    · exact .null

theorem holdsFlag_toJson_iff {v : Option Value} {b : Bool} :
    HoldsFlag (v.map Value.toJson) b ↔ WritesFlag v b := by
  constructor
  · intro h
    cases v with
    | none =>
      cases h
      exact .missing
    | some v =>
      rw [Option.map_some] at h
      generalize hj : v.toJson = j at h
      cases h with
      | flag b =>
        rw [Value.toJson_eq_bool_iff.mp hj]
        exact .flag b
  · rintro (_ | b)
    · exact .missing
    · exact .flag b

/-! ## All members -/

/-- The settings read from the JSON form of a table are those that the table writes. -/
theorem ofJson_membersToJson_iff {t : Table} {s : Settings} :
    ofJson (.obj (Toml.membersToJson t)) = .ok s ↔ Writes t s := by
  simp only [ofJson, ofMembers_eq_ok_iff, Toml.member?_membersToJson]
  constructor
  · intro h
    obtain ⟨v, hv, hrules⟩ := Option.map_eq_some_iff.mp h.rules
    rw [Value.toJson_eq_str_iff] at hrules
    exact ⟨hrules ▸ hv, holdsText_toJson_iff.mp h.add, holdsText_toJson_iff.mp h.addTags,
      holdsFlag_toJson_iff.mp h.substitute⟩
  · intro h
    have hrules := congrArg (Option.map Value.toJson) h.rules
    exact ⟨hrules, holdsText_toJson_iff.mpr h.add, holdsText_toJson_iff.mpr h.addTags,
      holdsFlag_toJson_iff.mpr h.substitute⟩

/-! ## Types -/

theorem WritesText.isText_iff {v : Option Value} {s : Option String} (h : WritesText v s) :
    (∀ w, v = some w → ∃ t, w = .string t) ↔ ∀ x, v = some (.float x) → ∃ y, x = .finite y := by
  cases h <;> simp

theorem WritesFlag.isFlag {v : Option Value} {b : Bool} (h : WritesFlag v b) :
    ∀ w, v = some w → ∃ b, w = .boolean b := by
  cases h <;> simp

/-- A table that writes settings has members of the right types unless it writes a number that is
not finite for a text that may be missing. -/
theorem Writes.typed_iff {t : Table} {s : Settings} (h : Writes t s) :
    Typed t ↔ ∀ name ∈ ["add", "add_tags"], ∀ x,
      Toml.member? name t = some (.float x) → ∃ y, x = .finite y := by
  simp only [List.forall_mem_cons, List.not_mem_nil, false_implies, implies_true, and_true]
  rw [← h.add.isText_iff, ← h.addTags.isText_iff]
  constructor
  · exact fun ht => ⟨ht.add, ht.addTags⟩
  · exact fun ht => ⟨⟨s.rules, h.rules⟩, ht.1, ht.2, h.substitute.isFlag⟩

end AttributeMatch.Settings

/-! ## The match -/

theorem AttributeMatch.ofSettings_eq_ok_iff {s : Settings} {m : AttributeMatch} :
    ofSettings s = .ok m ↔
      RuleSet.parse s.rules = .ok m.rules ∧
        Template.AttributeTemplates.parse s.add = .ok m.attributes ∧
        m.tags = Template.TagTemplates.parse s.addTags ∧ m.substitute = s.substitute := by
  simp only [ofSettings, bind_eq_ok, mapError_eq_ok]
  constructor
  · rintro ⟨rules, hrules, attributes, hattributes, hm⟩
    cases hm
    exact ⟨hrules, hattributes, rfl, rfl⟩
  · rintro ⟨hrules, hattributes, htags, hsubstitute⟩
    refine ⟨m.rules, hrules, m.attributes, hattributes, ?_⟩
    rw [← htags, ← hsubstitute]
    rfl

theorem AttributeMatch.ofSettings_eq_error_iff {s : Settings} {e : BuildError} :
    ofSettings s = .error e ↔
      (∃ cause, RuleSet.parse s.rules = .error cause ∧ .pattern cause = e) ∨
        (∃ rules, RuleSet.parse s.rules = .ok rules) ∧
          ∃ cause, Template.AttributeTemplates.parse s.add = .error cause ∧
            .properties cause = e := by
  have hparts : ofSettings s = ((RuleSet.parse s.rules).mapError .pattern).bind fun rules =>
      ((Template.AttributeTemplates.parse s.add).mapError .properties).map fun attributes =>
        ⟨rules, attributes, Template.TagTemplates.parse s.addTags, s.substitute⟩ := by
    unfold ofSettings
    cases Template.AttributeTemplates.parse s.add <;> rfl
  simp only [hparts, bind_eq_error_iff, map_eq_error_iff, mapError_eq_ok, mapError_eq_error_iff,
    exists_and_right]

end Enrich
