import Enrich.Proofs.Except
import Enrich.Proofs.Ordered.Map
import Enrich.Proofs.Text.Lines
import Enrich.Rule.RuleSet

/-!
# Rule sets line by line

A rule set groups its rules by key and keeps the numbers of the lines that are no rules apart. What
it answers is what its lines say one by one (`parse_linewise`). `Records` relates the set to the
lines read so far; `Records.addLines` carries it over the whole text.
-/

namespace Enrich.RuleSet

open Rule (Line Condition)

variable {s t : RuleSet} {read lines : List String} {line : String} {rule : Line} {c : Condition}

/-- The conditions for a key. -/
def conditionsOf (s : RuleSet) (key : String) : List Condition :=
  (s.conditions.find? key).getD []

/-! ## What one more line adds -/

theorem conditionsOf_addCondition {key x : String} :
    (s.addCondition key c).conditionsOf x =
      if x = key then c :: s.conditionsOf key else s.conditionsOf x := by
  unfold conditionsOf addCondition
  simp only [StringMap.find?_update]
  split <;> rfl

theorem mem_conditionsOf_addCondition {key x : String} {d : Condition} :
    d ∈ (s.addCondition key c).conditionsOf x ↔ d ∈ s.conditionsOf x ∨ x = key ∧ d = c := by
  rw [conditionsOf_addCondition]
  split
  · next heq =>
    subst heq
    rw [List.mem_cons]
    constructor
    · rintro (rfl | hd)
      · exact .inr ⟨rfl, rfl⟩
      · exact .inl hd
    · rintro (hd | ⟨-, rfl⟩)
      · exact .inr hd
      · exact .inl rfl
  · next hne => exact ⟨.inl, fun h => h.elim id fun h => absurd h.1 hne⟩

theorem mem_keys_addCondition {key x : String} :
    x ∈ (s.addCondition key c).keys ↔ x ∈ s.keys ∨ x = key := by
  unfold keys addCondition
  simp only [StringMap.mem_keys_iff, StringMap.find?_update]
  by_cases heq : x = key
  · simp [heq]
  · simp [heq]

theorem mem_malformedLines_addMalformed {number n : Nat} :
    n ∈ (s.addMalformed number).malformedLines ↔ n ∈ s.malformedLines ∨ n = number := by
  unfold addMalformed
  rw [List.mem_cons, or_comm]

/-! ## The lines on record -/

/-- Whether some line is no rule, by its number counted from one. -/
def MalformedAt (lines : List String) (number : Nat) : Prop :=
  ∃ i line, number = i + 1 ∧ lines[i]? = some line ∧ Line.parse? line = none

/-- Whether one of the lines is a rule with a given key and condition. -/
def AsksOf (lines : List String) (key : String) (c : Condition) : Prop :=
  ∃ line ∈ lines, ∃ rule, Line.parse? line = some rule ∧ rule.key = key ∧ rule.condition = .ok c

/-- Whether one of the lines is a rule with a given key. -/
def IsKeyOf (lines : List String) (key : String) : Prop :=
  ∃ line ∈ lines, ∃ rule, Line.parse? line = some rule ∧ rule.key = key

/-- What holds of a set while its lines are read: it has the rules of the lines read so far under
their keys, and the numbers of the other lines, the latest first. -/
structure Records (read : List String) (s : RuleSet) : Prop where
  conditions : ∀ key c, c ∈ s.conditionsOf key ↔ AsksOf read key c
  keys : ∀ key, key ∈ s.keys ↔ IsKeyOf read key
  malformed : ∀ n, n ∈ s.malformedLines ↔ MalformedAt read n
  decreasing : s.malformedLines.Pairwise (· > ·)
  compiled : ∀ line ∈ read, ∀ rule, Line.parse? line = some rule → ∃ c, rule.condition = .ok c

theorem MalformedAt.le_length {n : Nat} (h : MalformedAt lines n) : n ≤ lines.length := by
  obtain ⟨i, line, rfl, hline, -⟩ := h
  exact (List.getElem?_eq_some_iff.mp hline).1

theorem getElem?_concat_eq_some_iff {i : Nat} {l : String} :
    (read ++ [line])[i]? = some l ↔ read[i]? = some l ∨ i = read.length ∧ l = line := by
  rcases Nat.lt_trichotomy i read.length with hlt | rfl | hgt
  · rw [List.getElem?_append_left hlt]
    simp [Nat.ne_of_lt hlt]
  · simp [eq_comm]
  · have hlength : (read ++ [line]).length ≤ i := by
      rw [List.length_append]
      exact hgt
    rw [List.getElem?_eq_none hlength, List.getElem?_eq_none (Nat.le_of_lt hgt)]
    simp [Nat.ne_of_gt hgt]

theorem malformedAt_concat {n : Nat} : MalformedAt (read ++ [line]) n ↔
    MalformedAt read n ∨ n = read.length + 1 ∧ Line.parse? line = none := by
  unfold MalformedAt
  simp only [getElem?_concat_eq_some_iff]
  constructor
  · rintro ⟨i, l, rfl, hl | ⟨rfl, rfl⟩, hnone⟩
    · exact .inl ⟨i, l, rfl, hl, hnone⟩
    · exact .inr ⟨rfl, hnone⟩
  · rintro (⟨i, l, rfl, hl, hnone⟩ | ⟨rfl, hnone⟩)
    · exact ⟨i, l, rfl, .inl hl, hnone⟩
    · exact ⟨read.length, line, rfl, .inr ⟨rfl, rfl⟩, hnone⟩

theorem asksOf_concat {key : String} {c : Condition} : AsksOf (read ++ [line]) key c ↔
    AsksOf read key c ∨
      ∃ rule, Line.parse? line = some rule ∧ rule.key = key ∧ rule.condition = .ok c := by
  unfold AsksOf
  simp only [List.mem_append, List.mem_singleton, or_and_right, exists_or, exists_eq_left]

theorem isKeyOf_concat {key : String} : IsKeyOf (read ++ [line]) key ↔
    IsKeyOf read key ∨ ∃ rule, Line.parse? line = some rule ∧ rule.key = key := by
  unfold IsKeyOf
  simp only [List.mem_append, List.mem_singleton, or_and_right, exists_or, exists_eq_left]

/-! ## Reading the lines -/

theorem records_empty : Records [] empty where
  conditions key c := by simp [AsksOf, conditionsOf, empty, EmptyCollection.emptyCollection]
  keys key := by
    simp [IsKeyOf, keys, empty, StringMap.mem_keys_iff, EmptyCollection.emptyCollection]
  malformed n := by simp [MalformedAt, empty]
  decreasing := .nil
  compiled := by simp

theorem Records.addMalformed (hs : Records read s) (hline : Line.parse? line = none) :
    Records (read ++ [line]) (s.addMalformed (read.length + 1)) where
  conditions key c := by
    rw [asksOf_concat, ← hs.conditions]
    simp only [hline, reduceCtorEq, false_and, exists_false, or_false]
    rfl
  keys key := by
    rw [isKeyOf_concat, ← hs.keys]
    simp only [hline, reduceCtorEq, false_and, exists_false, or_false]
    rfl
  malformed n := by
    rw [mem_malformedLines_addMalformed, malformedAt_concat, hs.malformed]
    simp only [hline, and_true]
  decreasing := by
    refine List.pairwise_cons.mpr ⟨fun n hn => ?_, hs.decreasing⟩
    exact Nat.lt_succ_of_le ((hs.malformed n).mp hn).le_length
  compiled l hl rule hrule := by
    rcases List.mem_append.mp hl with hl | hl
    · exact hs.compiled l hl rule hrule
    · rw [List.mem_singleton.mp hl, hline] at hrule
      cases hrule

theorem Records.addCondition (hs : Records read s) (hline : Line.parse? line = some rule)
    (hrule : rule.condition = .ok c) :
    Records (read ++ [line]) (s.addCondition rule.key c) where
  conditions key d := by
    rw [asksOf_concat, mem_conditionsOf_addCondition, hs.conditions, hline]
    refine or_congr_right ⟨?_, ?_⟩
    · rintro ⟨rfl, rfl⟩
      exact ⟨rule, rfl, rfl, hrule⟩
    · rintro ⟨r, hr, rfl, hd⟩
      cases hr
      rw [hrule] at hd
      cases hd
      exact ⟨rfl, rfl⟩
  keys key := by
    rw [isKeyOf_concat, mem_keys_addCondition, hs.keys, hline]
    simp [eq_comm]
  malformed n := by
    rw [malformedAt_concat, ← hs.malformed]
    simp only [hline, reduceCtorEq, and_false, or_false]
    rfl
  decreasing := hs.decreasing
  compiled l hl r hr := by
    rcases List.mem_append.mp hl with hl | hl
    · exact hs.compiled l hl r hr
    · rw [List.mem_singleton.mp hl, hline] at hr
      cases hr
      exact ⟨c, hrule⟩

theorem Records.addLines (hs : Records read s)
    (h : s.addLines (read.length + 1) lines = .ok t) : Records (read ++ lines) t := by
  induction lines generalizing read s with
  | nil =>
    cases h
    rwa [List.append_nil]
  | cons line lines ih =>
    have hlength : read.length + 1 = (read ++ [line]).length := by rw [List.length_append]; rfl
    rw [List.append_cons]
    unfold RuleSet.addLines at h
    split at h
    · next hline =>
      rw [hlength] at h
      exact ih (hlength ▸ hs.addMalformed hline) h
    · next rule hline =>
      split at h
      · cases h
      · next c hrule =>
        rw [hlength] at h
        exact ih (hs.addCondition hline hrule) h

/-- A set that was read has the lines of its text on record, in the order of the text. -/
theorem records_of_parse {text : String} (h : parse text = .ok s) :
    ∃ t, Records (Text.ruleLines text) t ∧ s = t.reverseMalformed := by
  obtain ⟨t, ht, rfl⟩ := map_eq_ok.mp h
  exact ⟨t, records_empty.addLines ht, rfl⟩

theorem malformedAt_of_mem {text : String} {n : Nat} (h : parse text = .ok s)
    (hn : n ∈ s.malformedLines) : MalformedAt (Text.ruleLines text) n := by
  obtain ⟨t, ht, rfl⟩ := records_of_parse h
  exact (ht.malformed n).mp (List.mem_reverse.mp hn)

theorem pairwise_malformedLines {text : String} (h : parse text = .ok s) :
    s.malformedLines.Pairwise (· < ·) := by
  obtain ⟨t, ht, rfl⟩ := records_of_parse h
  exact List.pairwise_reverse.mpr ht.decreasing

/-! ## What a set answers -/

theorem matches_iff {attributes : Attributes} :
    s.«matches» attributes = true ↔
      s.malformedLines = [] ∧
        ∀ key, ∀ c ∈ s.conditionsOf key, c.test (attributes.find? key) = true := by
  unfold «matches» isWellFormed
  rw [Bool.and_eq_true, List.isEmpty_iff, List.all_eq_true]
  refine and_congr_right fun _ => ⟨fun h key c hc => ?_, fun h entry hentry => ?_⟩
  · unfold conditionsOf at hc
    cases hfound : s.conditions.find? key with
    | none =>
      rw [hfound] at hc
      cases hc
    | some conditions =>
      rw [hfound] at hc
      have hall := h (key, conditions) (StringMap.mem_entries_iff.mpr hfound)
      exact List.all_eq_true.mp hall c hc
  · obtain ⟨key, conditions⟩ := entry
    refine List.all_eq_true.mpr fun c hc => h key c ?_
    unfold conditionsOf
    rw [StringMap.mem_entries_iff.mp hentry]
    exact hc

theorem mem_keys_of_mem_conditionsOf {key : String} (h : c ∈ s.conditionsOf key) :
    key ∈ s.keys := by
  refine StringMap.mem_keys_iff.mpr fun hnone => ?_
  rw [conditionsOf, hnone] at h
  cases h

/-- A set looks at no attributes but those under its keys. -/
theorem matches_congr {a b : Attributes} (h : StringMap.AgreeOn s.keys a b) :
    s.«matches» a = s.«matches» b := by
  rw [Bool.eq_iff_iff, matches_iff, matches_iff]
  refine and_congr_right fun _ => forall_congr' fun key => forall₂_congr fun c hc => ?_
  rw [h key (mem_keys_of_mem_conditionsOf hc)]

theorem matches_reverseMalformed {attributes : Attributes} :
    s.reverseMalformed.«matches» attributes = s.«matches» attributes := by
  simp [«matches», isWellFormed, reverseMalformed]

theorem Records.malformedLines_eq_nil_iff (hs : Records lines s) :
    s.malformedLines = [] ↔ ∀ line ∈ lines, Line.parse? line ≠ none := by
  simp only [List.eq_nil_iff_forall_not_mem, hs.malformed]
  constructor
  · intro h line hline hnone
    obtain ⟨i, hi⟩ := List.mem_iff_getElem?.mp hline
    exact h (i + 1) ⟨i, line, rfl, hi, hnone⟩
  · rintro h n ⟨i, line, -, hi, hnone⟩
    exact h line (List.mem_of_getElem? hi) hnone

theorem Records.matches_iff_forall_lines (hs : Records lines s) {attributes : Attributes} :
    s.«matches» attributes = true ↔
      ∀ line ∈ lines, ∃ rule c, Line.parse? line = some rule ∧ rule.condition = .ok c ∧
        c.test (attributes.find? rule.key) = true := by
  rw [matches_iff, hs.malformedLines_eq_nil_iff]
  constructor
  · rintro ⟨hrules, htests⟩ line hline
    obtain ⟨rule, hrule⟩ := Option.ne_none_iff_exists'.mp (hrules line hline)
    obtain ⟨c, hc⟩ := hs.compiled line hline rule hrule
    have hasks : AsksOf lines rule.key c := ⟨line, hline, rule, hrule, rfl, hc⟩
    exact ⟨rule, c, hrule, hc, htests rule.key c ((hs.conditions rule.key c).mpr hasks)⟩
  · refine fun h => ⟨fun line hline hnone => ?_, fun key c hc => ?_⟩
    · obtain ⟨rule, _, hrule, -⟩ := h line hline
      rw [hnone] at hrule
      cases hrule
    · obtain ⟨line, hline, rule, hrule, rfl, hcondition⟩ := (hs.conditions key c).mp hc
      obtain ⟨r, d, hr, hd, htest⟩ := h line hline
      rw [hrule] at hr
      cases hr
      rw [hcondition] at hd
      cases hd
      exact htest

/-- **A rule set asks what its lines ask.** A set that was read from a text matches some attributes
if and only if every line of the text is a rule whose condition holds for the value under its key.
The malformed lines are the lines that are no rules, by increasing number, the keys are those of the
rules, and one line that is no rule makes the set match nothing. -/
theorem parse_linewise {text : String} (h : parse text = .ok s) :
    ∃ lines, Text.AreRuleLines text lines ∧
      (∀ attributes, s.«matches» attributes = true ↔
        ∀ line ∈ lines, ∃ rule c, Line.parse? line = some rule ∧ rule.condition = .ok c ∧
          c.test (attributes.find? rule.key) = true) ∧
      s.malformedLines.Pairwise (· < ·) ∧
      (∀ n, n ∈ s.malformedLines ↔
        ∃ i line, n = i + 1 ∧ lines[i]? = some line ∧ Line.parse? line = none) ∧
      s.keys.Pairwise (· < ·) ∧
      (∀ key, key ∈ s.keys ↔
        ∃ line ∈ lines, ∃ rule, Line.parse? line = some rule ∧ rule.key = key) ∧
      ((∃ line ∈ lines, Line.parse? line = none) →
        ∀ attributes, s.«matches» attributes = false) := by
  obtain ⟨t, ht, rfl⟩ := records_of_parse h
  refine ⟨_, Text.areRuleLines_iff.mpr rfl, fun attributes => ?_, ?_, fun n => ?_,
    t.conditions.ordered, ht.keys, ?_⟩
  · rw [matches_reverseMalformed]
    exact ht.matches_iff_forall_lines
  · exact List.pairwise_reverse.mpr ht.decreasing
  · exact List.mem_reverse.trans (ht.malformed n)
  · rintro ⟨line, hline, hnone⟩ attributes
    rw [matches_reverseMalformed]
    refine Bool.eq_false_iff.mpr fun hmatches => ?_
    exact ht.malformedLines_eq_nil_iff.mp (matches_iff.mp hmatches).1 line hline hnone

/-- An empty line counts as malformed between other lines, but not at the end of the text. -/
theorem parse_linewise_empty_lines :
    ∃ s, parse "b~~\r\n\na==1\nb!=2\r\n\r\n" = .ok s ∧ s.malformedLines = [2] ∧
      s.keys = ["a", "b"] ∧ ∀ attributes, s.«matches» attributes = false := by
  obtain ⟨s, hs, hmalformed, hkeys⟩ : ∃ s, parse "b~~\r\n\na==1\nb!=2\r\n\r\n" = .ok s ∧
      s.malformedLines = [2] ∧ s.keys = ["a", "b"] := ⟨_, rfl, rfl, rfl⟩
  refine ⟨s, hs, hmalformed, hkeys, ?_⟩
  obtain ⟨lines, -, -, -, hnumbers, -, -, hnone⟩ := parse_linewise hs
  have htwo : 2 ∈ s.malformedLines := by rw [hmalformed]; exact List.mem_singleton_self 2
  obtain ⟨i, line, -, hline, hparse⟩ := (hnumbers 2).mp htwo
  exact hnone ⟨line, List.mem_of_getElem? hline, hparse⟩

end Enrich.RuleSet
