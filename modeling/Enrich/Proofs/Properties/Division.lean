import Enrich.Proofs.Properties.Errors

/-!
# The longest parts of a logical line

A logical line is divided by taking as much as possible three times: the longest key, the longest
gap behind it, and from the end the longest tail of blanks; what is left is the value. `IsDivision`
says so with what counts as escaped taken from the whole line, where the reader counts backslashes
forwards in the key and backwards in the value. Both find the same parts
(`IsEntry.isDivision`), a line has no others (`IsDivision.eq`), and an entry is what the key and the
value stand for (`readEntry_division`).
-/

namespace Enrich.Properties

/-- Whether a text has a property and no longer text has it. -/
structure IsLongest (P : List Char → Prop) (text : List Char) : Prop where
  holds : P text
  longest : ∀ other, P other → other.length ≤ text.length

/-- Whether all that could end a key is escaped in a text. -/
def IsUnended (text : List Char) : Prop :=
  ∀ front c back, text = front ++ c :: back → endsKey c = true → EndsOdd front

/-- Whether a text holds only blanks and at most one separator. -/
def IsSeparation (text : List Char) : Prop :=
  (∀ c ∈ text, endsKey c = true) ∧ text.countP isSeparator ≤ 1

/-- Whether a text holds only blanks that are not escaped where it stands behind another one. -/
def IsLoose (before text : List Char) : Prop :=
  ∀ front c back, text = front ++ c :: back → isSpace c = true ∧ ¬ EndsOdd (before ++ front)

/-- Whether a logical line is divided into the longest key, the longest gap behind it, a value, and
the longest tail behind the gap. -/
structure IsDivision (line key gap value tail : List Char) : Prop where
  line_eq : line = key ++ gap ++ value ++ tail
  key_longest : IsLongest (fun key => key <+: line ∧ IsUnended key) key
  gap_longest : IsLongest (fun gap => key ++ gap <+: line ∧ IsSeparation gap) gap
  tail_longest : IsLongest
    (fun tail => ∃ value, line = key ++ gap ++ value ++ tail ∧ IsLoose (key ++ gap ++ value) tail)
    tail

variable {P : List Char → Prop} {line text other key gap value tail : List Char} {c : Char}

/-! ## Longest texts -/

theorem IsLongest.length_eq (h : IsLongest P text) (h' : IsLongest P other) :
    text.length = other.length :=
  Nat.le_antisymm (h'.longest text h.holds) (h.longest other h'.holds)

/-- A text in front of another one is the longest with a property if the next character breaks
it. -/
theorem IsLongest.of_next (rest : List Char) (holds : P text)
    (hstarts : ∀ other, P other → other <+: text ++ rest)
    (hends : ∀ c back, rest.head? = some c → ¬ P (text ++ c :: back)) : IsLongest P text := by
  refine ⟨holds, fun other hother => ?_⟩
  by_contra hlonger
  have hfront : text <+: other :=
    List.prefix_of_prefix_length_le (List.prefix_append text rest) (hstarts other hother) (by omega)
  obtain ⟨more, rfl⟩ := hfront
  cases more with
  | nil => simp at hlonger
  | cons c back =>
    obtain ⟨behind, hrest⟩ := (List.prefix_append_right_inj text).mp (hstarts _ hother)
    refine hends c back ?_ hother
    rw [← hrest]
    rfl

/-! ## The parts of an entry -/

/-- A gap ends in no backslash, and without a gap the line is all key: what is escaped behind the gap
is escaped there. -/
theorem IsEntry.endsOdd_behind_gap (h : IsEntry line key gap value tail) {front back : List Char}
    (hfront : value ++ tail = front ++ c :: back) :
    EndsOdd (key ++ gap ++ front) ↔ EndsOdd front := by
  refine endsOdd_append_iff ?_
  rcases List.eq_nil_or_concat gap with rfl | ⟨gap, d, rfl⟩
  · -- The key could not end here, since a value never starts with what ends a key.
    exfalso
    obtain ⟨d, hd⟩ : ∃ d, (value ++ tail).head? = some d := by
      rw [hfront]
      cases front with
      | nil => exact ⟨c, rfl⟩
      | cons d front => exact ⟨d, rfl⟩
    obtain ⟨hends, -⟩ := h.key_ends d (by simpa using hd)
    obtain ⟨hspace, hseparator⟩ := h.gap_ends d hd
    rw [endsKey, hspace, Bool.or_false] at hends
    exact absurd (hseparator hends) (by simp)
  · rw [List.concat_eq_append, ← List.append_assoc, endsOdd_concat_iff]
    rintro ⟨rfl, -⟩
    have hends := h.gap_blank '\\' (by simp)
    cases hends

theorem IsEntry.isLongest_key (h : IsEntry line key gap value tail) :
    IsLongest (fun key => key <+: line ∧ IsUnended key) key := by
  have hline : line = key ++ (gap ++ value ++ tail) := by
    rw [h.line_eq, List.append_assoc, List.append_assoc, List.append_assoc]
  refine .of_next (gap ++ value ++ tail) ?_ ?_ ?_
  · exact ⟨⟨_, hline.symm⟩, h.key_unbroken⟩
  · rintro other ⟨hother, -⟩
    exact hline ▸ hother
  · rintro c back hc ⟨-, hunended⟩
    obtain ⟨hends, hodd⟩ := h.key_ends c hc
    exact hodd (hunended key c back rfl hends)

theorem IsEntry.isLongest_gap (h : IsEntry line key gap value tail) :
    IsLongest (fun gap => key ++ gap <+: line ∧ IsSeparation gap) gap := by
  have hline : line = key ++ (gap ++ (value ++ tail)) := by
    rw [h.line_eq, List.append_assoc, List.append_assoc]
  refine .of_next (value ++ tail) ?_ ?_ ?_
  · refine ⟨⟨value ++ tail, ?_⟩, h.gap_blank, h.gap_once⟩
    rw [hline, List.append_assoc]
  · rintro other ⟨hother, -⟩
    exact (List.prefix_append_right_inj key).mp (hline ▸ hother)
  · rintro c back hc ⟨-, hblank, honce⟩
    -- The next character is no blank, so it is a separator, and the gap has one already.
    obtain ⟨hspace, hseparator⟩ := h.gap_ends c hc
    have hends : endsKey c = true := hblank c (by simp)
    rw [endsKey, hspace, Bool.or_false] at hends
    have hcount := hseparator hends
    rw [List.countP_append, List.countP_cons_of_pos hends] at honce
    omega

theorem IsEntry.isLongest_tail (h : IsEntry line key gap value tail) :
    IsLongest
      (fun tail => ∃ value, line = key ++ gap ++ value ++ tail ∧ IsLoose (key ++ gap ++ value) tail)
      tail := by
  constructor
  · refine ⟨value, h.line_eq, ?_⟩
    rintro front c back rfl
    obtain ⟨hspace, hodd⟩ := h.tail_blank front c back rfl
    refine ⟨hspace, ?_⟩
    rwa [List.append_assoc, h.endsOdd_behind_gap (by rw [List.append_assoc])]
  · rintro other ⟨shorter, hline, hloose⟩
    by_contra hlonger
    have hsame : value ++ tail = shorter ++ other := by
      rw [h.line_eq, List.append_assoc, List.append_assoc _ shorter] at hline
      exact List.append_cancel_left hline
    rcases List.append_eq_append_iff.mp hsame with ⟨cut, hshorter, htail⟩ | ⟨cut, hvalue, hother⟩
    · rw [htail, List.length_append] at hlonger
      omega
    · -- The longer tail starts inside the value and takes in the value's last character.
      rcases List.eq_nil_or_concat cut with rfl | ⟨front, c, rfl⟩
      · rw [hother, List.nil_append] at hlonger
        exact hlonger le_rfl
      · rw [List.concat_eq_append] at hvalue hother
        obtain ⟨hspace, hodd⟩ := hloose front c tail (by rw [hother, List.append_assoc]; rfl)
        have hbehind : value ++ tail = (shorter ++ front) ++ c :: tail := by
          rw [hvalue]
          simp only [List.append_assoc, List.cons_append, List.nil_append]
        refine hodd ?_
        rw [List.append_assoc, h.endsOdd_behind_gap hbehind]
        exact h.value_ends (shorter ++ front) c (by rw [hvalue, List.append_assoc]) hspace

theorem IsEntry.isDivision (h : IsEntry line key gap value tail) :
    IsDivision line key gap value tail :=
  ⟨h.line_eq, h.isLongest_key, h.isLongest_gap, h.isLongest_tail⟩

/-! ## One division -/

/-- A line is divided in one way only. -/
theorem IsDivision.eq {key' gap' value' tail' : List Char}
    (h : IsDivision line key gap value tail) (h' : IsDivision line key' gap' value' tail') :
    key' = key ∧ gap' = gap ∧ value' = value ∧ tail' = tail := by
  have hline := h'.line_eq.symm.trans h.line_eq
  rw [List.append_assoc, List.append_assoc, List.append_assoc, List.append_assoc] at hline
  obtain ⟨rfl, hbehindKey⟩ := List.append_inj hline (h'.key_longest.length_eq h.key_longest)
  obtain ⟨rfl, hbehindGap⟩ := List.append_inj hbehindKey (h'.gap_longest.length_eq h.gap_longest)
  obtain ⟨rfl, rfl⟩ := List.append_inj' hbehindGap (h'.tail_longest.length_eq h.tail_longest)
  exact ⟨rfl, rfl, rfl, rfl⟩

theorem IsEntry.readEntry_eq_ok_iff {entry : String × String}
    (h : IsEntry line key gap value tail) :
    readEntry line = .ok entry ↔
      unescape key = .ok entry.1.toList ∧ unescape value = .ok entry.2.toList := by
  rw [readEntry_eq h]
  cases unescape key with
  | error cause => simp [Except.bind]
  | ok k =>
    cases unescape value with
    | error cause => simp [Except.bind, Except.map]
    | ok v => simp [Except.bind, Except.map, Prod.ext_iff, ← String.toList_inj]

/-- **Lines are divided in one way, and an entry is read from its parts.** Every logical line is a
key, a gap, a value and a tail in just one way: the key is the longest front part in which each
separator and blank is escaped, the gap the longest run behind it of blanks with at most one
separator, and the tail the longest end behind the gap of blanks that are not escaped. So the value
starts with no blank, and with no separator unless there is one in the gap. The entry of the line
can be read if and only if the escapes of the key and of the value can, and then it is the two texts
that they stand for. -/
theorem readEntry_division (line : List Char) :
    ∃ key gap value tail, IsDivision line key gap value tail ∧
      (∀ key' gap' value' tail', IsDivision line key' gap' value' tail' →
        key' = key ∧ gap' = gap ∧ value' = value ∧ tail' = tail) ∧
      (∀ c, value.head? = some c →
        isSpace c = false ∧ (isSeparator c = true → ∃ d ∈ gap, isSeparator d = true)) ∧
      ((∃ entry, readEntry line = .ok entry) ↔
        (∃ k, unescape key = .ok k) ∧ ∃ v, unescape value = .ok v) ∧
      ∀ k v, readEntry line = .ok (k, v) ↔
        unescape key = .ok k.toList ∧ unescape value = .ok v.toList := by
  obtain ⟨key, gap, value, tail, hparts⟩ := exists_isEntry line
  have hdivision := hparts.isDivision
  refine ⟨key, gap, value, tail, hdivision, ?_, ?_, ?_, ?_⟩
  · intro key' gap' value' tail' h'
    exact hdivision.eq h'
  · intro c hc
    have hhead : (value ++ tail).head? = some c := by
      rw [List.head?_append, hc]
      rfl
    obtain ⟨hspace, hseparator⟩ := hparts.gap_ends c hhead
    refine ⟨hspace, fun hc => ?_⟩
    have hcount : 0 < gap.countP isSeparator := by
      rw [hseparator hc]
      exact Nat.one_pos
    exact List.countP_pos_iff.mp hcount
  · constructor
    · rintro ⟨entry, hentry⟩
      obtain ⟨hkey, hvalue⟩ := hparts.readEntry_eq_ok_iff.mp hentry
      exact ⟨⟨_, hkey⟩, _, hvalue⟩
    · rintro ⟨⟨k, hkey⟩, v, hvalue⟩
      refine ⟨(String.ofList k, String.ofList v), hparts.readEntry_eq_ok_iff.mpr ?_⟩
      rw [String.toList_ofList, String.toList_ofList]
      exact ⟨hkey, hvalue⟩
  · intro k v
    exact hparts.readEntry_eq_ok_iff

end Enrich.Properties
