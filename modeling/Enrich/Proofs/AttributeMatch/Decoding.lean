import Enrich.AttributeMatch.Settings
import Enrich.Proofs.Except

/-!
# Which JSON values hold settings

Settings are read from an object by the names of its members, or from an array by the places of its
items; either way four values are looked up, and the same is asked of them (`HoldsParts`). `Holds`
says which settings a value holds without reading it, and these are the ones that are read
(`ofJson_exact`). Settings have two written forms, an object without the texts that are not there
and an array with `null` in their place, and both are read back.
-/

namespace Enrich.AttributeMatch.Settings

variable {j : Json} {s : Settings} {items : List Json} {members : List (String × Json)}

/-- The text that a value holds which may be missing or null. -/
inductive HoldsText : Option Json → Option String → Prop
  | missing : HoldsText none none
  | null : HoldsText (some .null) none
  | text (t : String) : HoldsText (some (.str t)) (some t)

/-- The flag that a value holds which may be missing. -/
inductive HoldsFlag : Option Json → Bool → Prop
  | missing : HoldsFlag none false
  | flag (b : Bool) : HoldsFlag (some (.bool b)) b

/-- The settings that four values hold, each of which may be missing. -/
structure HoldsParts (rules add addTags substitute : Option Json) (s : Settings) : Prop where
  rules : rules = some (.str s.rules)
  add : HoldsText add s.add
  addTags : HoldsText addTags s.addTags
  substitute : HoldsFlag substitute s.substitute

/-- The settings that a JSON value holds. Other members of an object do not matter; an array may
have no other items. -/
inductive Holds : Json → Settings → Prop
  | members {members : List (String × Json)} {s : Settings}
      (hparts : HoldsParts (Json.member? "match" members) (Json.member? "add" members)
        (Json.member? "add_tags" members) (Json.member? "enable_substitution" members) s) :
      Holds (.obj members) s
  | items {items : List Json} {s : Settings} (hcount : 1 ≤ items.length ∧ items.length ≤ 4)
      (hparts : HoldsParts items[0]? items[1]? items[2]? items[3]? s) : Holds (.arr items) s

/-- The settings as an array in order, with `null` for a text that is not there. -/
def toItems (s : Settings) : Json :=
  .arr [.str s.rules, (s.add.map Json.str).getD .null, (s.addTags.map Json.str).getD .null,
    .bool s.substitute]

/-! ## One value -/

theorem text_eq_ok_iff {t : String} : text j = .ok t ↔ j = .str t := by
  cases j <;> simp [text]

theorem optionalText_eq_ok_iff {v : Option Json} {t : Option String} :
    optionalText v = .ok t ↔ HoldsText v t := by
  constructor
  · intro h
    unfold optionalText at h
    split at h
    · cases h
      exact .missing
    · cases h
      exact .null
    · obtain ⟨t, ht, rfl⟩ := map_eq_ok.mp h
      rw [text_eq_ok_iff.mp ht]
      exact .text t
  · intro h
    cases h <;> rfl

theorem flag_eq_ok_iff {v : Option Json} {b : Bool} : flag v = .ok b ↔ HoldsFlag v b := by
  constructor
  · intro h
    unfold flag at h
    split at h
    · cases h
      exact .missing
    · cases h
      exact .flag _
    · cases h
  · intro h
    cases h <;> rfl

/-! ## All values -/

theorem ofMembers_eq_ok_iff : ofMembers members = .ok s ↔
    HoldsParts (Json.member? "match" members) (Json.member? "add" members)
      (Json.member? "add_tags" members) (Json.member? "enable_substitution" members) s := by
  unfold ofMembers
  simp only [bind_eq_ok, optionalText_eq_ok_iff, flag_eq_ok_iff]
  constructor
  · rintro ⟨add, hadd, addTags, haddTags, substitute, hsubstitute, h⟩
    cases hmatch : Json.member? "match" members with
    | none =>
      rw [hmatch] at h
      cases h
    | some v =>
      rw [hmatch] at h
      obtain ⟨rules, hrules, h⟩ := bind_eq_ok.mp h
      cases h
      rw [text_eq_ok_iff] at hrules
      exact ⟨by rw [hrules], hadd, haddTags, hsubstitute⟩
  · intro h
    refine ⟨s.add, h.add, s.addTags, h.addTags, s.substitute, h.substitute, ?_⟩
    rw [h.rules]
    rfl

theorem ofItems_eq_ok_iff : ofItems items = .ok s ↔ (1 ≤ items.length ∧ items.length ≤ 4) ∧
    HoldsParts items[0]? items[1]? items[2]? items[3]? s := by
  cases items with
  | nil =>
    constructor
    · intro h
      cases h
    · rintro ⟨⟨hcount, -⟩, -⟩
      cases hcount
  | cons rules items =>
    simp only [ofItems, bind_eq_ok, optionalText_eq_ok_iff, flag_eq_ok_iff, text_eq_ok_iff,
      List.length_cons, List.getElem?_cons_zero, List.getElem?_cons_succ]
    constructor
    · rintro ⟨t, hrules, add, hadd, addTags, haddTags, substitute, hsubstitute, h⟩
      split at h
      · cases h
      · next hcount =>
        cases h
        exact ⟨by omega, by rw [hrules], hadd, haddTags, hsubstitute⟩
    · rintro ⟨⟨-, hcount⟩, h⟩
      have hfew : ¬ 3 < items.length := by omega
      refine ⟨s.rules, Option.some.inj h.rules, s.add, h.add, s.addTags, h.addTags, s.substitute,
        h.substitute, ?_⟩
      rw [if_neg hfew]
      rfl

theorem ofJson_eq_ok_iff : ofJson j = .ok s ↔ Holds j s := by
  constructor
  · intro h
    cases j with
    | obj members => exact .members (ofMembers_eq_ok_iff.mp h)
    | arr items =>
      obtain ⟨hcount, hparts⟩ := ofItems_eq_ok_iff.mp h
      exact .items hcount hparts
    | null | bool _ | int _ | float _ | str _ => cases h
  · intro h
    cases h with
    | members hparts => exact ofMembers_eq_ok_iff.mpr hparts
    | items hcount hparts => exact ofItems_eq_ok_iff.mpr ⟨hcount, hparts⟩

theorem holdsText_getD_null {t : Option String} :
    HoldsText (some ((t.map Json.str).getD .null)) t := by
  cases t with
  | none => exact .null
  | some t => exact .text t

theorem holds_toItems : Holds s.toItems s :=
  .items ⟨by simp, by simp⟩ ⟨rfl, holdsText_getD_null, holdsText_getD_null, .flag _⟩

/-- **Which JSON values are settings.** Those are read that hold settings, and no others, and what
is read is what they hold: an object by its members, or an array of one to four items in order;
the rules have to be there, a text to add may be missing or null and is none then, and a missing
flag is off. Settings written as an object, or as an array with a place for each of them, are read
back as they were. -/
theorem ofJson_exact :
    (∀ j s, ofJson j = .ok s ↔ Holds j s) ∧ (∀ s : Settings, ofJson s.toJson = .ok s) ∧
      ∀ s : Settings, ofJson s.toItems = .ok s := by
  refine ⟨?_, ofJson_toJson, ?_⟩
  · intro j s
    exact ofJson_eq_ok_iff
  · intro s
    exact ofJson_eq_ok_iff.mpr holds_toItems

/-- A null is no text to add, but it is no flag. -/
example :
    (ofJson (.arr [.str "a==1", .null, .str "x"])).toOption = some ⟨"a==1", none, some "x", false⟩ ∧
      (ofJson (.arr [.str "a==1", .null, .str "x", .null])).isOk = false := by
  decide

end Enrich.AttributeMatch.Settings
