import Enrich.Enhancer.Registry
import Mathlib.Data.List.Induction
import Mathlib.Data.List.Nodup

/-!
# Registering providers again and again

A registry is filled by calls, and of the calls for one provider the last one counts: it decides
what is made for the provider, and where the provider stands among the others
(`last_call_counts`). A registry is a list that is searched from its front. A call takes out what
the provider had before it adds to the end, so what a registry holds are the last calls in order
(`Reflects`): the next call keeps this up (`Reflects.register`), and so all calls do
(`reflects_afterCalls`).
-/

namespace Enrich.Registry

variable {r : Registry} {p q : String} {f : Factory}

/-! ## One call -/

theorem create_register_self (settings : Json) :
    (r.register p f).create p settings = f settings := by
  have hrest : (r.factories.filter (·.1 ≠ p)).find? (·.1 == p) = none := by
    simp [List.find?_eq_none]
  unfold create register
  rw [List.find?_append, hrest]
  simp

theorem create_register_of_ne (h : q ≠ p) (settings : Json) :
    (r.register p f).create q settings = r.create q settings := by
  -- Only what was there for `p` is taken out, and none of it is found for `q`.
  have hrest : (r.factories.filter (·.1 ≠ p)).find? (·.1 == q) =
      r.factories.find? (·.1 == q) := by
    rw [List.find?_filter]
    congr 1
    funext entry
    by_cases hentry : entry.1 = q
    · simp [hentry, h]
    · simp [hentry]
  have hlast : [(p, f)].find? (·.1 == q) = none := by
    simp [Ne.symm h]
  unfold create register
  rw [List.find?_append, hrest, hlast, Option.or_none]

theorem create_of_notMem (h : p ∉ r.providers) (settings : Json) :
    r.create p settings = .error (.unknownProvider p) := by
  have hnone : r.factories.find? (·.1 == p) = none := by
    rw [List.find?_eq_none]
    intro entry hentry hp
    rw [beq_iff_eq] at hp
    exact h (List.mem_map.mpr ⟨entry, hentry, hp⟩)
  unfold create
  rw [hnone]

theorem providers_register :
    (r.register p f).providers = r.providers.filter (· ≠ p) ++ [p] := by
  unfold providers register
  rw [List.map_append, List.filter_map]
  rfl

theorem mem_providers_register :
    q ∈ (r.register p f).providers ↔ (q ∈ r.providers ∧ q ≠ p) ∨ q = p := by
  rw [providers_register, List.mem_append, List.mem_filter, List.mem_singleton,
    decide_eq_true_iff]

theorem contains_iff : r.contains p = true ↔ p ∈ r.providers := by
  simp [contains, providers]

/-! ## Many calls -/

/-- A call that registers a provider: with a factory that is given, or the one that comes built
in. -/
inductive Registration where
  | given (provider : String) (factory : Factory)
  | builtIn

namespace Registration

/-- The provider that a call registers. -/
def provider : Registration → String
  | given provider _ => provider
  | builtIn => AttributeMatch.provider

/-- The factory that a call registers. -/
def factory : Registration → Factory
  | given _ factory => factory
  | builtIn => fun settings => (AttributeMatch.ofJson settings).map AttributeMatch.toEnhancer

end Registration

variable {calls front back : List Registration} {c d : Registration} {i : Nat}

/-- The registry after one more call. -/
def call (r : Registry) : Registration → Registry
  | .given provider factory => r.register provider factory
  | .builtIn => r.registerBuiltIn

/-- The registry that some calls make out of the empty one. -/
def afterCalls (calls : List Registration) : Registry :=
  calls.foldl call empty

theorem call_eq : r.call c = r.register c.provider c.factory := by
  cases c <;> rfl

theorem afterCalls_concat :
    afterCalls (calls ++ [c]) = (afterCalls calls).register c.provider c.factory := by
  unfold afterCalls
  rw [List.foldl_append, List.foldl_cons, List.foldl_nil, call_eq]

/-- A call makes no difference to the other providers, wherever it stands. -/
theorem create_afterCalls_of_ne (h : p ≠ c.provider) (settings : Json) :
    (afterCalls (front ++ c :: back)).create p settings =
      (afterCalls (front ++ back)).create p settings := by
  induction back using List.reverseRecOn with
  | nil => rw [afterCalls_concat, create_register_of_ne h, List.append_nil]
  | append_singleton back last ih =>
    rw [← List.cons_append, ← List.append_assoc, ← List.append_assoc, afterCalls_concat,
      afterCalls_concat]
    by_cases hlast : p = last.provider
    · rw [hlast, create_register_self, create_register_self]
    · rw [create_register_of_ne hlast, create_register_of_ne hlast, ih]

/-! ## The last call for a provider -/

/-- Whether a call stands at an index and is the last one for its provider. -/
def LastCall (calls : List Registration) (i : Nat) (c : Registration) : Prop :=
  ∃ front back, calls = front ++ c :: back ∧ front.length = i ∧ ∀ d ∈ back, d.provider ≠ c.provider

theorem not_lastCall_nil : ¬ LastCall [] i c := by
  rintro ⟨front, back, hcalls, -⟩
  cases front <;> cases hcalls

theorem LastCall.lt_length (h : LastCall calls i c) : i < calls.length := by
  obtain ⟨front, back, rfl, rfl, -⟩ := h
  simp

/-- A new call is the last one for its provider, and no earlier one for this provider still is. -/
theorem lastCall_concat : LastCall (calls ++ [c]) i d ↔
    (i = calls.length ∧ d = c) ∨ LastCall calls i d ∧ d.provider ≠ c.provider := by
  constructor
  · rintro ⟨front, back, hcalls, rfl, hback⟩
    rcases List.eq_nil_or_concat' back with rfl | ⟨back, last, rfl⟩
    · obtain ⟨rfl, hd⟩ := List.append_inj' hcalls rfl
      cases hd
      exact .inl ⟨rfl, rfl⟩
    · rw [← List.cons_append, ← List.append_assoc] at hcalls
      obtain ⟨rfl, hlast⟩ := List.append_inj' hcalls rfl
      cases hlast
      have hne : d.provider ≠ c.provider := Ne.symm (hback c (by simp))
      have hrest : ∀ e ∈ back, e.provider ≠ d.provider := by
        intro e he
        exact hback e (by simp [he])
      exact .inr ⟨⟨front, back, rfl, rfl, hrest⟩, hne⟩
  · rintro (⟨rfl, rfl⟩ | ⟨⟨front, back, rfl, rfl, hback⟩, hne⟩)
    · exact ⟨calls, [], rfl, rfl, by simp⟩
    · refine ⟨front, back ++ [c], by simp, rfl, ?_⟩
      intro e he
      rcases List.mem_append.mp he with he | he
      · exact hback e he
      · rw [List.mem_singleton.mp he]
        exact Ne.symm hne

theorem exists_lastCall (h : c ∈ calls) : ∃ i d, LastCall calls i d ∧ d.provider = c.provider := by
  induction calls using List.reverseRecOn with
  | nil => cases h
  | append_singleton calls last ih =>
    by_cases hlast : last.provider = c.provider
    · exact ⟨calls.length, last, lastCall_concat.mpr (.inl ⟨rfl, rfl⟩), hlast⟩
    · rcases List.mem_append.mp h with h | h
      · obtain ⟨i, d, hd, hprovider⟩ := ih h
        have hne : d.provider ≠ last.provider := hprovider ▸ Ne.symm hlast
        exact ⟨i, d, lastCall_concat.mpr (.inr ⟨hd, hne⟩), hprovider⟩
      · rw [List.mem_singleton.mp h] at hlast
        exact absurd rfl hlast

/-- Whether the last call for one provider comes before the last call for another. -/
def LastBefore (calls : List Registration) (p q : String) : Prop :=
  ∃ i j c d, i < j ∧ LastCall calls i c ∧ c.provider = p ∧ LastCall calls j d ∧ d.provider = q

theorem LastBefore.concat (h : LastBefore calls p q) (hp : p ≠ c.provider) (hq : q ≠ c.provider) :
    LastBefore (calls ++ [c]) p q := by
  obtain ⟨i, j, first, second, hij, hfirst, rfl, hsecond, rfl⟩ := h
  exact ⟨i, j, first, second, hij, lastCall_concat.mpr (.inr ⟨hfirst, hp⟩), rfl,
    lastCall_concat.mpr (.inr ⟨hsecond, hq⟩), rfl⟩

/-- The last call for any other provider comes before a new call. -/
theorem lastBefore_concat (h : d ∈ calls) (hne : d.provider ≠ c.provider) :
    LastBefore (calls ++ [c]) d.provider c.provider := by
  obtain ⟨i, first, hfirst, hprovider⟩ := exists_lastCall h
  have hold : LastCall (calls ++ [c]) i first :=
    lastCall_concat.mpr (.inr ⟨hfirst, hprovider ▸ hne⟩)
  exact ⟨i, calls.length, first, c, hfirst.lt_length, hold, hprovider,
    lastCall_concat.mpr (.inl ⟨rfl, rfl⟩), rfl⟩

/-! ## What a registry holds -/

/-- Whether a registry holds the last call for each provider, in order. -/
structure Reflects (calls : List Registration) (r : Registry) : Prop where
  mem_providers_iff : ∀ p, p ∈ r.providers ↔ ∃ c ∈ calls, c.provider = p
  nodup : r.providers.Nodup
  ordered : r.providers.Pairwise (LastBefore calls)
  create_eq : ∀ i c settings, LastCall calls i c →
    r.create c.provider settings = c.factory settings

theorem reflects_empty : Reflects [] empty := by
  constructor
  · intro p
    simp [empty, providers]
  · exact List.nodup_nil
  · exact List.Pairwise.nil
  · intro i c settings hlast
    exact absurd hlast not_lastCall_nil

theorem Reflects.register (h : Reflects calls r) :
    Reflects (calls ++ [c]) (r.register c.provider c.factory) := by
  constructor
  · intro p
    rw [mem_providers_register, h.mem_providers_iff]
    by_cases hp : c.provider = p
    · simp [hp]
    · simp [hp, Ne.symm hp]
  · rw [providers_register, List.nodup_append']
    refine ⟨h.nodup.filter _, List.nodup_singleton _, ?_⟩
    intro p hp hlast
    rw [List.mem_singleton.mp hlast] at hp
    simpa using (List.mem_filter.mp hp).2
  · rw [providers_register, List.pairwise_append]
    -- The others keep their order, for the call is for none of them, and all come before it.
    refine ⟨?_, List.pairwise_singleton _ _, ?_⟩
    · refine (h.ordered.filter _).imp_of_mem ?_
      intro p q hp hq hbefore
      have hpne : p ≠ c.provider := by simpa using (List.mem_filter.mp hp).2
      have hqne : q ≠ c.provider := by simpa using (List.mem_filter.mp hq).2
      exact hbefore.concat hpne hqne
    · intro p hp q hq
      obtain ⟨hmem, hpne⟩ := List.mem_filter.mp hp
      obtain ⟨d, hd, rfl⟩ := (h.mem_providers_iff p).mp hmem
      rw [List.mem_singleton.mp hq]
      exact lastBefore_concat hd (by simpa using hpne)
  · intro i d settings hlast
    rcases lastCall_concat.mp hlast with ⟨-, rfl⟩ | ⟨hold, hne⟩
    · exact create_register_self settings
    · rw [create_register_of_ne hne, h.create_eq i d settings hold]

theorem reflects_afterCalls : Reflects calls (afterCalls calls) := by
  induction calls using List.reverseRecOn with
  | nil => exact reflects_empty
  | append_singleton calls c ih =>
    rw [afterCalls_concat]
    exact ih.register

theorem Reflects.create_eq_unknownProvider_iff (h : Reflects calls r) {settings : Json} :
    r.create p settings = .error (.unknownProvider p) ↔
      (∀ c ∈ calls, c.provider ≠ p) ∨ ∃ i c, LastCall calls i c ∧ c.provider = p ∧
        c.factory settings = .error (.unknownProvider p) := by
  constructor
  · intro herror
    by_cases hmem : ∃ c ∈ calls, c.provider = p
    · obtain ⟨c, hc, rfl⟩ := hmem
      obtain ⟨i, d, hd, hprovider⟩ := exists_lastCall hc
      rw [← hprovider, h.create_eq i d settings hd] at herror
      exact .inr ⟨i, d, hd, hprovider, hprovider ▸ herror⟩
    · exact .inl fun c hc hp => hmem ⟨c, hc, hp⟩
  · rintro (hnone | ⟨i, c, hc, rfl, herror⟩)
    · refine create_of_notMem ?_ settings
      rw [h.mem_providers_iff]
      rintro ⟨c, hc, hp⟩
      exact hnone c hc hp
    · rw [h.create_eq i c settings hc, herror]

/-- **Of the calls for a provider the last one counts.** After any calls, those for what comes built
in among them, the registry lists every provider that was registered exactly once, in the order of
the last calls for them, and contains these and no others. What it makes for a provider is what the
factory of the last call for it makes; and it says that the provider is unknown exactly if no call
was for it or that factory says so itself. A call for one provider makes no difference to what is
made for another, wherever it stands among the calls. -/
theorem last_call_counts (calls : List Registration) :
    ((afterCalls calls).providers.Nodup ∧
      (∀ p, p ∈ (afterCalls calls).providers ↔ ∃ c ∈ calls, c.provider = p) ∧
      (afterCalls calls).providers.Pairwise (LastBefore calls)) ∧
    (∀ p, (afterCalls calls).contains p = true ↔ ∃ c ∈ calls, c.provider = p) ∧
    (∀ i c settings, LastCall calls i c →
      (afterCalls calls).create c.provider settings = c.factory settings) ∧
    (∀ p settings, (afterCalls calls).create p settings = .error (.unknownProvider p) ↔
      (∀ c ∈ calls, c.provider ≠ p) ∨ ∃ i c, LastCall calls i c ∧ c.provider = p ∧
        c.factory settings = .error (.unknownProvider p)) ∧
    ∀ front c back, calls = front ++ c :: back → ∀ p settings, p ≠ c.provider →
      (afterCalls calls).create p settings = (afterCalls (front ++ back)).create p settings := by
  have h : Reflects calls (afterCalls calls) := reflects_afterCalls
  refine ⟨⟨h.nodup, h.mem_providers_iff, h.ordered⟩, ?_, h.create_eq, ?_, ?_⟩
  · intro p
    rw [contains_iff, h.mem_providers_iff]
  · intro p settings
    exact h.create_eq_unknownProvider_iff
  · rintro front c back rfl p settings hne
    exact create_afterCalls_of_ne hne settings

/-- A provider that is registered again moves behind the one between, and what it made before no
longer counts. A factory may call its own provider unknown; then so does the registry. -/
theorem last_call_counts_again :
    ∃ (keep : Enhancer) (first last unknown : Registration),
      first.provider = "icons" ∧ last.provider = "icons" ∧ last.factory .null = .ok keep ∧
      (afterCalls [first, .builtIn]).providers = ["icons", "attribute-match"] ∧
      (afterCalls [first, .builtIn, last]).providers = ["attribute-match", "icons"] ∧
      (afterCalls [first, .builtIn, last]).providers.Pairwise
        (LastBefore [first, .builtIn, last]) ∧
      (afterCalls [first, .builtIn, last]).create "icons" .null = .ok keep ∧
      (afterCalls [first, .builtIn, last]).create "icon" .null = .error (.unknownProvider "icon") ∧
      (∀ settings, (afterCalls [first, .builtIn, last]).create "attribute-match" settings =
        (afterCalls [first, .builtIn]).create "attribute-match" settings) ∧
      unknown.provider = "x" ∧
      (afterCalls [unknown]).create "x" .null = .error (.unknownProvider "x") := by
  let keep : Enhancer := ⟨"icons", fun _ n => (n, none)⟩
  let first : Registration := .given "icons" fun _ => .error (.unknownProvider "disabled")
  let last : Registration := .given "icons" fun _ => .ok keep
  let unknown : Registration := .given "x" fun _ => .error (.unknownProvider "x")
  obtain ⟨⟨-, -, hordered⟩, -, hmade, hunknown, hothers⟩ :=
    last_call_counts [first, .builtIn, last]
  obtain ⟨-, -, -, hitself, -⟩ := last_call_counts [unknown]
  have hlast : LastCall [first, .builtIn, last] 2 last :=
    ⟨[first, .builtIn], [], rfl, rfl, by simp⟩
  have hicon : ∀ c ∈ [first, .builtIn, last], c.provider ≠ "icon" := by
    simp [first, last, Registration.provider, AttributeMatch.provider]
  have hself : LastCall [unknown] 0 unknown := ⟨[], [], rfl, rfl, by simp⟩
  refine ⟨keep, first, last, unknown, rfl, rfl, rfl, by decide +kernel, by decide +kernel, hordered,
    hmade 2 last .null hlast, (hunknown "icon" .null).mpr (.inl hicon), ?_, rfl,
    (hitself "x" .null).mpr (.inr ⟨0, unknown, hself, rfl, rfl⟩)⟩
  intro settings
  exact hothers [first, .builtIn] last [] rfl "attribute-match" settings (by decide)

end Enrich.Registry
