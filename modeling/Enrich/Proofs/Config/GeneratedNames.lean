import Enrich.Proofs.Config.FirstFlaw
import Enrich.Text.Cut
import Std.Data.String.ToNat

/-!
# Generated display names

An entry without a name of its own is shown by its provider, a `#` and its position. A provider may
hold such marks and digits itself; but a position is written without a mark, so the last mark of a
generated name tells the provider from the position, and no two entries share a generated name
(`generated_distinct`).
-/

namespace Enrich.Config

variable {e e' : Entry} {entries : List Entry} {i j : Nat} {name : String}

theorem hash_notMem_toString (n : Nat) : '#' ∉ (toString n).toList := by
  intro h
  have hdigits : '#' ∈ Nat.toDigits 10 n := by
    rw [← Nat.toList_repr]
    exact h
  have hdigit : '#'.isDigit = true := Nat.isDigit_of_mem_toDigits (by omega) (by omega) hdigits
  exact absurd hdigit (by decide)

theorem Entry.displayName_of_some {own : String} (h : e.name = some own) :
    e.displayName i = own := by
  simp [displayName, h]

theorem Entry.toList_displayName (h : e.name = none) :
    (e.displayName i).toList = e.provider.toList ++ '#' :: (toString (i + 1)).toList := by
  unfold displayName
  rw [h, Option.getD_none, String.toList_append, String.toList_append, List.append_assoc]
  rfl

/-- A generated name tells the provider and the position. -/
theorem Entry.eq_and_eq_of_displayName_eq (h : e.name = none) (h' : e'.name = none)
    (hshown : e.displayName i = e'.displayName j) : e.provider = e'.provider ∧ i = j := by
  have hlist := congrArg String.toList hshown
  rw [toList_displayName h, toList_displayName h'] at hlist
  obtain ⟨hprovider, hposition⟩ :=
    Text.eq_and_eq_of_append_cons (hash_notMem_toString _) (hash_notMem_toString _) hlist
  have hsucc : i + 1 = j + 1 := Nat.repr_injective (String.toList_injective hposition)
  exact ⟨String.toList_injective hprovider, by omega⟩

theorem ShownAs.eq_of_unnamed (h : ShownAs entries i e name) (h' : ShownAs entries j e' name)
    (hname : e.name = none) (hname' : e'.name = none) : i = j :=
  (Entry.eq_and_eq_of_displayName_eq hname hname' (h.shown.trans h'.shown.symm)).2

/-- Of two entries that are shown under one name, one has it for its own. -/
theorem ShownAs.named_or_named (h : ShownAs entries i e name) (h' : ShownAs entries j e' name)
    (hij : i ≠ j) : e.name = some name ∨ e'.name = some name := by
  cases hname : e.name with
  | some own =>
    have hown := h.shown
    rw [Entry.displayName_of_some hname] at hown
    exact .inl (congrArg some hown)
  | none =>
    cases hname' : e'.name with
    | some own =>
      have hown := h'.shown
      rw [Entry.displayName_of_some hname'] at hown
      exact .inr (congrArg some hown)
    | none => exact absurd (h.eq_of_unnamed h' hname hname') hij

/-- **No two entries share a generated name**, whatever their providers are. So a config of the
supported version has no flaw if all its entries name providers and none has a name of its own; and
a name is reported to be defined more than once only if it is the own name of an entry that is
shown under it together with an earlier one, or that of the earlier one. -/
theorem generated_distinct (c : Config) :
    (∀ i j, ∀ e e' : Entry, c.entries[i]? = some e → c.entries[j]? = some e' → i ≠ j →
      e.name = none → e'.name = none → e.displayName i ≠ e'.displayName j) ∧
    (c.version = supportedVersion → (∀ e ∈ c.entries, e.name = none ∧ e.NamesProvider) →
      c.flaw? = none) ∧
    ∀ name, c.flaw? = some (.duplicateName name) →
      ∃ i, ∃ j < i, ∃ e e', ShownAs c.entries i e name ∧ ShownAs c.entries j e' name ∧
        (e.name = some name ∨ e'.name = some name) := by
  refine ⟨?_, ?_, ?_⟩
  · intro i j e e' _ _ hij hname hname' hshown
    exact hij (Entry.eq_and_eq_of_displayName_eq hname hname' hshown).2
  · intro hversion hentries
    rw [Option.eq_none_iff_forall_ne_some]
    intro flaw hflaw
    rcases flaw?_eq_some_iff.mp hflaw with ⟨hwrong, -⟩ | ⟨-, i, hat, -⟩
    · exact hwrong hversion
    · cases hat with
      | missingProvider he hprovider =>
        exact hprovider (hentries _ (List.mem_of_getElem? he)).2
      | duplicateName he _ hearlier =>
        obtain ⟨j, hj, e', he'⟩ := hearlier
        have hunnamed := (hentries _ (List.mem_of_getElem? he.stands)).1
        have hunnamed' := (hentries _ (List.mem_of_getElem? he'.stands)).1
        have hij := he.eq_of_unnamed he' hunnamed hunnamed'
        omega
  · intro name hflaw
    rcases flaw?_eq_some_iff.mp hflaw with ⟨-, hwrong⟩ | ⟨-, i, hat, -⟩
    · cases hwrong
    · cases hat with
      | duplicateName he _ hearlier =>
        obtain ⟨j, hj, e', he'⟩ := hearlier
        exact ⟨i, j, hj, _, e', he, he', he.named_or_named he' (by omega)⟩

/-- Providers that end in marks and numbers do not clash, even where the name of one entry begins
with that of another. A name that is written down may be the one that is generated for a later
entry, and then it is reported. -/
theorem generated_distinct_marks :
    ∃ c clash : Config, c.entries.map Entry.provider = ["a", "a#1", "a#1#2", "a#1"] ∧
      c.displayNames = ["a#1", "a#1#2", "a#1#2#3", "a#1#4"] ∧ c.flaw? = none ∧
      clash.flaw? = some (.duplicateName "a#1#2") ∧
      ∃ i, ∃ j < i, ∃ e e', ShownAs clash.entries i e "a#1#2" ∧
        ShownAs clash.entries j e' "a#1#2" ∧
        (e.name = some "a#1#2" ∨ e'.name = some "a#1#2") := by
  let unnamed (provider : String) : Entry := ⟨provider, none, true, []⟩
  let c : Config := ⟨"1.0", [unnamed "a", unnamed "a#1", unnamed "a#1#2", unnamed "a#1"]⟩
  let clash : Config := ⟨"1.0", [⟨"b", some "a#1#2", false, []⟩, unnamed "a#1"]⟩
  have hentries : ∀ e ∈ c.entries, e.name = none ∧ e.NamesProvider := by
    simp [c, unnamed, Entry.NamesProvider, Text.isBlank]
  have hclash : clash.flaw? = some (.duplicateName "a#1#2") := by decide +kernel
  exact ⟨c, clash, rfl, by decide +kernel, (generated_distinct c).2.1 rfl hentries, hclash,
    (generated_distinct clash).2.2 "a#1#2" hclash⟩

end Enrich.Config
