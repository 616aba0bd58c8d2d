import Enrich.Proofs.Config.Names

/-!
# The flaw of a config that is reported

A wrong version is reported before all else. Else the entries are looked at in order, and the first
one that names no provider or is shown under the name of an earlier entry decides; of an entry with
both flaws the missing provider is reported (`flaw?_reports`). The loop carries the names that it
has seen. That these are the display names of the entries behind it, and that none of those entries
has a flaw, is its invariant (`Passed`).
-/

namespace Enrich.Config

variable {e : Entry} {entries front back : List Entry} {seen : Std.TreeSet String} {i : Nat}
  {name : String} {flaw found : Flaw}

/-- Whether the provider of an entry has a character that is not blank. -/
def Entry.NamesProvider (e : Entry) : Prop :=
  ∃ ch ∈ e.provider.toList, Text.isBlank ch = false

/-- Whether an entry stands at an index and is shown under a name there. -/
structure ShownAs (entries : List Entry) (i : Nat) (e : Entry) (name : String) : Prop where
  stands : entries[i]? = some e
  shown : e.displayName i = name

/-- The flaw of the entry at an index, if it has one. A name that an earlier entry is shown under
counts only for an entry that names a provider. -/
inductive FlawAt (entries : List Entry) (i : Nat) : Flaw → Prop
  | missingProvider {e : Entry} (he : entries[i]? = some e) (hprovider : ¬ e.NamesProvider) :
      FlawAt entries i (.missingProvider (i + 1))
  | duplicateName {e : Entry} {name : String} (he : ShownAs entries i e name)
      (hprovider : e.NamesProvider) (hearlier : ∃ j < i, ∃ e', ShownAs entries j e' name) :
      FlawAt entries i (.duplicateName name)

/-- Whether a flaw is that of the first entry that has one. -/
def IsFirstFlaw (entries : List Entry) (flaw : Flaw) : Prop :=
  ∃ i, FlawAt entries i flaw ∧ ∀ j < i, ∀ other, ¬ FlawAt entries j other

/-! ## Flaws of one entry -/

theorem FlawAt.lt_length (h : FlawAt entries i flaw) : i < entries.length := by
  cases h with
  | missingProvider he _ => exact (List.getElem?_eq_some_iff.mp he).1
  | duplicateName he _ _ => exact (List.getElem?_eq_some_iff.mp he.stands).1

/-- An entry has at most one flaw. -/
theorem FlawAt.eq (h : FlawAt entries i flaw) (hfound : FlawAt entries i found) :
    flaw = found := by
  cases h with
  | missingProvider he hprovider =>
    cases hfound with
    | missingProvider _ _ => rfl
    | duplicateName he' hprovider' _ =>
      have hsame := he.symm.trans he'.stands
      cases hsame
      exact absurd hprovider' hprovider
  | duplicateName he hprovider _ =>
    cases hfound with
    | missingProvider he' hprovider' =>
      have hsame := he.stands.symm.trans he'
      cases hsame
      exact absurd hprovider hprovider'
    | duplicateName he' _ _ =>
      have hsame := he.stands.symm.trans he'.stands
      cases hsame
      rw [← he.shown, ← he'.shown]

/-- Once a first flaw is found it is the one that counts. -/
theorem isFirstFlaw_iff_eq (hfound : FlawAt entries i found)
    (hbefore : ∀ j < i, ∀ other, ¬ FlawAt entries j other) :
    IsFirstFlaw entries flaw ↔ flaw = found := by
  constructor
  · rintro ⟨j, hflaw, hfirst⟩
    rcases Nat.lt_trichotomy i j with hij | hij | hij
    · exact absurd hfound (hfirst i hij found)
    · subst hij
      exact hflaw.eq hfound
    · exact absurd hflaw (hbefore j hij flaw)
  · intro h
    subst h
    exact ⟨i, hfound, hbefore⟩

theorem mem_displayNamesFrom_iff :
    name ∈ displayNamesFrom 0 front ↔ ∃ j e, ShownAs front j e name := by
  unfold displayNamesFrom
  simp only [List.mem_map, List.mem_zipIdx_iff_getElem?, Prod.exists]
  constructor
  · rintro ⟨e, j, he, hname⟩
    exact ⟨j, e, he, hname⟩
  · rintro ⟨j, e, he, hname⟩
    exact ⟨e, j, he, hname⟩

/-- What can be wrong with the entry behind some others. -/
theorem flawAt_length_iff : FlawAt (front ++ e :: back) front.length flaw ↔
    (¬ e.NamesProvider ∧ flaw = .missingProvider (front.length + 1)) ∨
      e.NamesProvider ∧ e.displayName front.length ∈ displayNamesFrom 0 front ∧
        flaw = .duplicateName (e.displayName front.length) := by
  have hlast : (front ++ e :: back)[front.length]? = some e := by simp
  have hfront : ∀ {j}, j < front.length → (front ++ e :: back)[j]? = front[j]? := by
    intro j hj
    exact List.getElem?_append_left hj
  constructor
  · intro h
    cases h with
    | missingProvider he hprovider =>
      have hsame := hlast.symm.trans he
      cases hsame
      exact .inl ⟨hprovider, rfl⟩
    | duplicateName he hprovider hearlier =>
      have hsame := hlast.symm.trans he.stands
      cases hsame
      obtain ⟨j, hj, e', he'⟩ := hearlier
      have hmem : e.displayName front.length ∈ displayNamesFrom 0 front := by
        rw [he.shown, mem_displayNamesFrom_iff]
        exact ⟨j, e', (hfront hj).symm.trans he'.stands, he'.shown⟩
      exact .inr ⟨hprovider, hmem, by rw [he.shown]⟩
  · rintro (⟨hprovider, rfl⟩ | ⟨hprovider, hmem, rfl⟩)
    · exact .missingProvider hlast hprovider
    · obtain ⟨j, e', he'⟩ := mem_displayNamesFrom_iff.mp hmem
      have hj : j < front.length := (List.getElem?_eq_some_iff.mp he'.stands).1
      exact .duplicateName ⟨hlast, rfl⟩ hprovider
        ⟨j, hj, e', (hfront hj).trans he'.stands, he'.shown⟩

/-! ## All entries -/

/-- The invariant of the loop over the entries: the names that were seen are those of the entries
behind it, and none of these entries has a flaw. -/
structure Passed (seen : Std.TreeSet String) (front back : List Entry) : Prop where
  seen_iff : ∀ name, seen.contains name = true ↔ name ∈ displayNamesFrom 0 front
  sound : ∀ j < front.length, ∀ other, ¬ FlawAt (front ++ back) j other

theorem passed_nil : Passed ∅ [] back := by
  constructor
  · intro name
    simp [displayNamesFrom, Std.TreeSet.contains_emptyc]
  · intro j hj
    cases hj

theorem displayNamesFrom_concat : displayNamesFrom 0 (front ++ [e]) =
    displayNamesFrom 0 front ++ [e.displayName front.length] := by
  simp [displayNamesFrom, List.zipIdx_append]

/-- The loop goes past an entry that names a provider and is shown under a new name. -/
theorem Passed.next (h : Passed seen front (e :: back)) (hprovider : e.NamesProvider)
    (hnew : seen.contains (e.displayName front.length) = false) :
    Passed (seen.insert (e.displayName front.length)) (front ++ [e]) back := by
  have hentries : front ++ [e] ++ back = front ++ e :: back := by simp
  constructor
  · intro name
    rw [Std.TreeSet.contains_insert, Bool.or_eq_true, beq_iff_eq, Std.compare_eq_iff_eq, h.seen_iff,
      displayNamesFrom_concat, List.mem_append, List.mem_singleton, or_comm, eq_comm (a := name)]
  · intro j hj other
    rw [hentries]
    rw [List.length_append, List.length_singleton] at hj
    rcases Nat.lt_succ_iff_lt_or_eq.mp hj with hj | rfl
    · exact h.sound j hj other
    · rw [flawAt_length_iff]
      rintro (⟨hnone, -⟩ | ⟨-, hmem, -⟩)
      · exact hnone hprovider
      · rw [← h.seen_iff, hnew] at hmem
        cases hmem

theorem Passed.firstFlaw?_eq_some_iff (h : Passed seen front back) :
    firstFlaw? seen front.length back = some flaw ↔ IsFirstFlaw (front ++ back) flaw := by
  -- By induction on the entries that are left; the config stays the same, only the cut moves.
  induction back generalizing seen front with
  | nil =>
    constructor
    · intro hnone
      cases hnone
    · rintro ⟨i, hflaw, -⟩
      have hi : i < (front ++ []).length := hflaw.lt_length
      rw [List.append_nil] at hi
      exact absurd hflaw (h.sound i hi flaw)
  | cons e back ih =>
    unfold firstFlaw?
    by_cases hprovider : e.NamesProvider
    · have hblank : Text.allBlank e.provider = false := Text.allBlank_eq_false_iff.mpr hprovider
      by_cases hseen : seen.contains (e.displayName front.length) = true
      · -- The name was seen, so this entry repeats it and is the first that has a flaw.
        have hfound : FlawAt (front ++ e :: back) front.length
            (.duplicateName (e.displayName front.length)) :=
          flawAt_length_iff.mpr (.inr ⟨hprovider, (h.seen_iff _).mp hseen, rfl⟩)
        rw [isFirstFlaw_iff_eq hfound h.sound]
        simp [hblank, hseen, eq_comm]
      · rw [Bool.not_eq_true] at hseen
        have hrest := ih (h.next hprovider hseen)
        rw [List.length_append, List.length_singleton, List.append_assoc,
          List.singleton_append] at hrest
        simpa [hblank, hseen] using hrest
    · have hblank : Text.allBlank e.provider = true := by
        rw [← Bool.not_eq_false, Text.allBlank_eq_false_iff]
        exact hprovider
      have hfound : FlawAt (front ++ e :: back) front.length
          (.missingProvider (front.length + 1)) :=
        flawAt_length_iff.mpr (.inl ⟨hprovider, rfl⟩)
      rw [isFirstFlaw_iff_eq hfound h.sound]
      simp [hblank, eq_comm]

/-! ## The config -/

theorem flaw?_eq_some_iff {c : Config} : c.flaw? = some flaw ↔
    (c.version ≠ supportedVersion ∧ flaw = .unsupportedVersion c.version) ∨
      c.version = supportedVersion ∧ IsFirstFlaw c.entries flaw := by
  unfold flaw?
  by_cases hversion : c.version = supportedVersion
  · have hentries : firstFlaw? ∅ 0 c.entries = some flaw ↔ IsFirstFlaw c.entries flaw :=
      passed_nil.firstFlaw?_eq_some_iff
    simp [hversion, hentries]
  · simp [hversion, eq_comm]

/-- **What is wrong with a config.** Nothing is, if and only if its version is the supported one,
every entry, enabled or not, names a provider, and no two entries are shown under one name. Else a
wrong version is reported before all other flaws; and then the flaw of the first entry that has
one: its position if it names no provider, or the name that an earlier entry is shown under. -/
theorem flaw?_reports (c : Config) :
    (c.flaw? = none ↔ c.version = supportedVersion ∧ (∀ e ∈ c.entries, e.NamesProvider) ∧
      c.displayNames.Nodup) ∧
    ∀ flaw, c.flaw? = some flaw ↔
      (c.version ≠ supportedVersion ∧ flaw = .unsupportedVersion c.version) ∨
        c.version = supportedVersion ∧ IsFirstFlaw c.entries flaw := by
  constructor
  · rw [flaw?_eq_none_iff]
    simp only [Text.allBlank_eq_false_iff]
    rfl
  · intro flaw
    exact flaw?_eq_some_iff

/-- The third entry has both flaws: it names no provider, and it is shown under the name that the
second one has for its own. -/
example : flaw? ⟨"1.0", [⟨"a", none, true, []⟩, ⟨"a", some " #3", false, []⟩, ⟨" ", none, true, []⟩,
    ⟨"a", some "a#1", true, []⟩]⟩ = some (.missingProvider 3) := by
  decide +kernel

end Enrich.Config
