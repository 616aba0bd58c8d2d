import Enrich.Proofs.Properties.LogicalLines
import Enrich.Properties.Entry

/-!
# The parts of a logical line

A logical line is a key, a gap of blanks with at most one separator, a value, and blanks that do not
count. `IsEntry` says where each part ends by what is escaped and what is not. Every line has such
parts (`exists_isEntry`), and its raw key and raw value are the ones that `splitEntry` gives
(`IsEntry.splitEntry_eq`).
-/

namespace Enrich.Properties

/-- Whether `c` ends a key unless it is escaped. -/
def endsKey (c : Char) : Bool :=
  isSeparator c || isSpace c

/-- Whether a logical line has the given parts: the longest key in which all that could end it is
escaped, the longest gap behind it, and the longest tail of blanks that are not escaped. -/
structure IsEntry (line key gap value tail : List Char) : Prop where
  line_eq : line = key ++ gap ++ value ++ tail
  key_unbroken : ∀ front c back, key = front ++ c :: back → endsKey c = true → EndsOdd front
  key_ends : ∀ c, (gap ++ value ++ tail).head? = some c → endsKey c = true ∧ ¬ EndsOdd key
  gap_blank : ∀ c ∈ gap, endsKey c = true
  gap_once : gap.countP isSeparator ≤ 1
  gap_ends : ∀ c, (value ++ tail).head? = some c →
    isSpace c = false ∧ (isSeparator c = true → gap.countP isSeparator = 1)
  tail_blank : ∀ front c back, tail = front ++ c :: back →
    isSpace c = true ∧ ¬ EndsOdd (value ++ front)
  value_ends : ∀ front c, value = front ++ [c] → isSpace c = true → EndsOdd front

variable {before key gap value tail line rest text : List Char} {c : Char}

/-! ## The key -/

/-- Whether a text is the longest key in front of a `rest`, given what comes before it. -/
def IsKey (before key rest : List Char) : Prop :=
  (∀ front c back, key = front ++ c :: back → endsKey c = true → EndsOdd (before ++ front)) ∧
    ∀ c, rest.head? = some c → endsKey c = true ∧ ¬ EndsOdd (before ++ key)

theorem isKey_nil_cons : IsKey before [] (c :: rest) ↔ endsKey c = true ∧ ¬ EndsOdd before := by
  simp [IsKey]

theorem isKey_cons : IsKey before (c :: key) rest ↔
    (endsKey c = true → EndsOdd before) ∧ IsKey (before ++ [c]) key rest := by
  unfold IsKey
  rw [← and_assoc, List.append_assoc, List.singleton_append]
  refine and_congr_left fun _ => ⟨fun h => ⟨fun hc => ?_, ?_⟩, ?_⟩
  · simpa using h [] c key rfl hc
  · rintro front d back rfl hd
    simpa using h (c :: front) d back rfl hd
  · rintro ⟨hc, h⟩ front d back hkey hd
    cases front with
    | nil =>
      cases hkey
      simpa using hc hd
    | cons _ front =>
      cases hkey
      simpa using h front d back rfl hd

theorem splitKey_append (h : IsKey before key rest) :
    splitKey (decide (EndsOdd before)) (key ++ rest) = (key, rest) := by
  induction key generalizing before with
  | nil =>
    cases rest with
    | nil => rfl
    | cons c rest =>
      obtain ⟨hends, hbefore⟩ := isKey_nil_cons.mp h
      have hstop : (!decide (EndsOdd before) && (isSeparator c || isSpace c)) = true := by
        simpa [hbefore, endsKey] using hends
      rw [List.nil_append, splitKey, if_pos hstop]
  | cons c key ih =>
    obtain ⟨hc, hkey⟩ := isKey_cons.mp h
    have hgo : ¬ (!decide (EndsOdd before) && (isSeparator c || isSpace c)) = true := by
      rw [Bool.and_eq_true, Bool.not_eq_true', decide_eq_false_iff_not]
      exact fun hstop => hstop.1 (hc hstop.2)
    have hescaped : (c == '\\' && !decide (EndsOdd before)) = decide (EndsOdd (before ++ [c])) := by
      rw [Bool.eq_iff_iff]
      simp [endsOdd_concat_iff]
    rw [List.cons_append, splitKey, if_neg hgo, hescaped, ih hkey]

theorem exists_isKey (before text : List Char) :
    ∃ key rest, text = key ++ rest ∧ IsKey before key rest := by
  induction text generalizing before with
  | nil => exact ⟨[], [], rfl, by simp [IsKey]⟩
  | cons c text ih =>
    by_cases hstop : endsKey c = true ∧ ¬ EndsOdd before
    · exact ⟨[], c :: text, rfl, isKey_nil_cons.mpr hstop⟩
    · obtain ⟨key, rest, rfl, hkey⟩ := ih (before ++ [c])
      refine ⟨c :: key, rest, rfl, isKey_cons.mpr ⟨fun hc => ?_, hkey⟩⟩
      exact Decidable.not_not.mp fun hbefore => hstop ⟨hc, hbefore⟩

/-! ## The gap -/

/-- Whether a text is the longest gap in front of a `rest`, given the separators that came before
it. -/
def IsGap (seen : Nat) (gap rest : List Char) : Prop :=
  (∀ c ∈ gap, endsKey c = true) ∧ seen + gap.countP isSeparator ≤ 1 ∧
    ∀ c, rest.head? = some c →
      isSpace c = false ∧ (isSeparator c = true → seen + gap.countP isSeparator = 1)

theorem isSeparator_eq_false (h : isSpace c = true) : isSeparator c = false := by
  simp only [isSpace, Bool.or_eq_true, beq_iff_eq] at h
  rcases h with (rfl | rfl) | rfl <;> rfl

theorem isGap_cons_space {seen : Nat} (hc : isSpace c = true) :
    IsGap seen (c :: gap) rest ↔ IsGap seen gap rest := by
  simp [IsGap, endsKey, hc, isSeparator_eq_false hc]

theorem isGap_cons_separator {seen : Nat} (hc : isSeparator c = true) :
    IsGap seen (c :: gap) rest ↔ IsGap (seen + 1) gap rest := by
  simp [IsGap, endsKey, hc, Nat.add_assoc, Nat.add_comm 1]

theorem dropSeparator_append {seen : Nat} (h : IsGap seen gap rest) :
    dropSeparator (seen == 1) (gap ++ rest) = rest := by
  induction gap generalizing seen with
  | nil =>
    cases rest with
    | nil => rfl
    | cons c rest =>
      obtain ⟨hspace, hseparator⟩ := h.2.2 c rfl
      have hstop : ¬ (!seen == 1 && isSeparator c) = true := by
        intro hgo
        rw [Bool.and_eq_true, Bool.not_eq_true', beq_eq_false_iff_ne] at hgo
        exact hgo.1 (hseparator hgo.2)
      rw [List.nil_append, dropSeparator, if_neg (by simp [hspace]), if_neg hstop]
  | cons c gap ih =>
    rw [List.cons_append, dropSeparator]
    by_cases hspace : isSpace c = true
    · rw [if_pos hspace]
      exact ih ((isGap_cons_space hspace).mp h)
    · have hseparator : isSeparator c = true := by
        simpa [endsKey, hspace] using h.1 c List.mem_cons_self
      have hseen : seen = 0 := by
        have honce := ((isGap_cons_separator hseparator).mp h).2.1
        omega
      subst hseen
      rw [if_neg hspace, if_pos (by simp [hseparator])]
      exact ih ((isGap_cons_separator hseparator).mp h)

theorem exists_isGap {seen : Nat} (hseen : seen ≤ 1) (text : List Char) :
    ∃ gap rest, text = gap ++ rest ∧ IsGap seen gap rest := by
  induction text generalizing seen with
  | nil => exact ⟨[], [], rfl, by simp, by simpa using hseen, by simp⟩
  | cons c text ih =>
    by_cases hspace : isSpace c = true
    · obtain ⟨gap, rest, rfl, hgap⟩ := ih hseen
      exact ⟨c :: gap, rest, rfl, (isGap_cons_space hspace).mpr hgap⟩
    · by_cases hgo : isSeparator c = true ∧ seen = 0
      · obtain ⟨gap, rest, rfl, hgap⟩ := @ih (seen + 1) (by omega)
        exact ⟨c :: gap, rest, rfl, (isGap_cons_separator hgo.1).mpr hgap⟩
      · refine ⟨[], c :: text, rfl, by simp, by simpa using hseen, ?_⟩
        rintro d hd
        cases hd
        refine ⟨by simpa using hspace, fun hseparator => ?_⟩
        have hne : seen ≠ 0 := fun hzero => hgo ⟨hseparator, hzero⟩
        simp only [List.countP_nil]
        omega

/-! ## The value -/

/-- Whether a text, behind which a `tail` is dropped, keeps its blanks. -/
def IsValue (value tail : List Char) : Prop :=
  (∀ front c back, tail = front ++ c :: back → isSpace c = true ∧ ¬ EndsOdd (value ++ front)) ∧
    ∀ front c, value = front ++ [c] → isSpace c = true → EndsOdd front

theorem isValue_concat :
    IsValue value (tail ++ [c]) ↔ (isSpace c = true ∧ ¬ EndsOdd (value ++ tail)) ∧
      IsValue value tail := by
  unfold IsValue
  rw [← and_assoc]
  refine and_congr_left fun _ => ⟨fun h => ⟨h tail c [] rfl, ?_⟩, ?_⟩
  · rintro front d back rfl
    exact h front d (back ++ [c]) (by simp)
  · rintro ⟨hc, h⟩ front d back htail
    rcases List.eq_nil_or_concat back with rfl | ⟨back, e, rfl⟩
    · obtain ⟨rfl, heq⟩ := List.append_inj' htail rfl
      cases heq
      exact hc
    · rw [List.concat_eq_append, ← List.cons_append, ← List.append_assoc] at htail
      obtain ⟨rfl, -⟩ := List.append_inj' htail rfl
      exact h front d back rfl

theorem trimReversed_cons (c : Char) (front : List Char) :
    trimReversed (c :: front.reverse) =
      if isSpace c = true ∧ ¬ EndsOdd front then trimReversed front.reverse
      else c :: front.reverse := by
  have hcond : (isSpace c && leadingBackslashes front.reverse % 2 == 0) = true ↔
      isSpace c = true ∧ ¬ EndsOdd front := by
    rw [Bool.and_eq_true, beq_iff_eq, ← isOpen_iff, isOpen, beq_iff_eq]
    refine and_congr_right fun _ => ?_
    omega
  rw [trimReversed]
  simp only [hcond]

theorem trimEnd_append (h : IsValue value tail) : trimEnd (value ++ tail) = value := by
  suffices hreversed : trimReversed (value ++ tail).reverse = value.reverse by
    rw [trimEnd, hreversed, List.reverse_reverse]
  induction tail using List.reverseRec with
  | nil =>
    rw [List.append_nil]
    rcases List.eq_nil_or_concat value with rfl | ⟨front, c, rfl⟩
    · rfl
    · rw [List.concat_eq_append] at h ⊢
      have hstop : ¬ (isSpace c = true ∧ ¬ EndsOdd front) := fun hgo =>
        hgo.2 (h.2 front c rfl hgo.1)
      rw [List.reverse_concat, trimReversed_cons, if_neg hstop]
  | append_singleton tail c ih =>
    obtain ⟨hc, htail⟩ := isValue_concat.mp h
    rw [← List.append_assoc, List.reverse_concat, trimReversed_cons, if_pos hc, ih htail]

theorem exists_isValue (text : List Char) : ∃ value tail, text = value ++ tail ∧
    IsValue value tail := by
  induction text using List.reverseRec with
  | nil => exact ⟨[], [], rfl, by simp [IsValue]⟩
  | append_singleton text c ih =>
    by_cases hgo : isSpace c = true ∧ ¬ EndsOdd text
    · obtain ⟨value, tail, rfl, hvalue⟩ := ih
      exact ⟨value, tail ++ [c], by rw [List.append_assoc], isValue_concat.mpr ⟨hgo, hvalue⟩⟩
    · refine ⟨text ++ [c], [], by simp, by simp, ?_⟩
      rintro front d hvalue hd
      obtain ⟨rfl, heq⟩ := List.append_inj' hvalue rfl
      cases heq
      exact Decidable.not_not.mp fun hfront => hgo ⟨hd, hfront⟩

/-! ## All parts -/

theorem isEntry_iff : IsEntry line key gap value tail ↔
    line = key ++ gap ++ value ++ tail ∧ IsKey [] key (gap ++ value ++ tail) ∧
      IsGap 0 gap (value ++ tail) ∧ IsValue value tail := by
  constructor
  · intro h
    refine ⟨h.line_eq, ⟨h.key_unbroken, h.key_ends⟩, ⟨h.gap_blank, ?_, ?_⟩, h.tail_blank,
      h.value_ends⟩
    · simpa using h.gap_once
    · simpa using h.gap_ends
  · rintro ⟨hline, hkey, hgap, hvalue⟩
    refine ⟨hline, hkey.1, hkey.2, hgap.1, ?_, ?_, hvalue.1, hvalue.2⟩
    · simpa using hgap.2.1
    · simpa using hgap.2.2

theorem IsEntry.splitEntry_eq (h : IsEntry line key gap value tail) :
    splitEntry line = (key, value) := by
  obtain ⟨rfl, hkey, hgap, hvalue⟩ := isEntry_iff.mp h
  have hsplit : splitKey false (key ++ (gap ++ value ++ tail)) = (key, gap ++ value ++ tail) :=
    splitKey_append hkey
  have hdrop : dropSeparator false (gap ++ (value ++ tail)) = value ++ tail :=
    dropSeparator_append hgap
  rw [List.append_assoc, List.append_assoc, ← List.append_assoc gap, splitEntry, hsplit]
  simp only [List.append_assoc, hdrop, trimEnd_append hvalue]

theorem exists_isEntry (line : List Char) :
    ∃ key gap value tail, IsEntry line key gap value tail := by
  obtain ⟨key, behindKey, rfl, hkey⟩ := exists_isKey [] line
  obtain ⟨gap, behindGap, rfl, hgap⟩ := exists_isGap (Nat.zero_le 1) behindKey
  obtain ⟨value, tail, rfl, hvalue⟩ := exists_isValue behindGap
  refine ⟨key, gap, value, tail, isEntry_iff.mpr ⟨?_, ?_, hgap, hvalue⟩⟩
  · simp only [List.append_assoc]
  · rwa [List.append_assoc]

end Enrich.Properties
