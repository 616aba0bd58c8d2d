import Enrich.Proofs.Properties.Errors

/-!
# Entries on one line

A raw key or value is kept whole if no line ends in it, it starts with nothing that is dropped, all
that could end it is escaped, and nothing behind it is. Texts that are kept whole can be put
together. An equals sign between two of them makes a text of one entry, whose raw key and raw value
they are (`parse_keptWhole`).
-/

namespace Enrich.Properties

/-- Whether a text starts with nothing that a reader drops. -/
def StartsPlain (text : List Char) : Prop :=
  ∀ c, text.head? = some c → isSpace c = false ∧ c ≠ '#' ∧ c ≠ '!'

/-- Whether a raw text stays as it is where a key or a value stands. -/
structure KeptWhole (raw : List Char) : Prop where
  unbroken : Unbroken raw
  startsPlain : StartsPlain raw
  ends_escaped : ∀ front c back, raw = front ++ c :: back → endsKey c = true → EndsOdd front
  closed : ¬ EndsOdd raw

variable {raw raw₁ raw₂ key value text : List Char} {c d : Char}

/-! ## Texts that are kept whole -/

theorem keptWhole_nil : KeptWhole [] := by
  refine ⟨unbroken_nil, ?_, ?_, not_endsOdd_nil⟩
  · intro c hc
    cases hc
  · intro front c back hraw
    simp at hraw

theorem Unbroken.append (h₁ : Unbroken raw₁) (h₂ : Unbroken raw₂) : Unbroken (raw₁ ++ raw₂) := by
  intro c hc
  rcases List.mem_append.mp hc with hc | hc
  · exact h₁ c hc
  · exact h₂ c hc

theorem StartsPlain.append (h₁ : StartsPlain raw₁) (h₂ : StartsPlain raw₂) :
    StartsPlain (raw₁ ++ raw₂) := by
  cases raw₁ with
  | nil => exact h₂
  | cons c raw₁ => exact h₁

theorem KeptWhole.append (h₁ : KeptWhole raw₁) (h₂ : KeptWhole raw₂) :
    KeptWhole (raw₁ ++ raw₂) := by
  refine ⟨h₁.unbroken.append h₂.unbroken, h₁.startsPlain.append h₂.startsPlain, ?_, ?_⟩
  · intro front c back hraw hc
    rcases List.append_eq_append_iff.mp hraw with ⟨front₂, rfl, hraw₂⟩ | ⟨back₁, hraw₁, hback⟩
    · rw [endsOdd_append_iff h₁.closed]
      exact h₂.ends_escaped front₂ c back hraw₂ hc
    · cases back₁ with
      -- The character is the first one of the second text, so nothing in that text escapes it.
      | nil => exact absurd (h₂.ends_escaped [] c back hback.symm hc) not_endsOdd_nil
      | cons d back₁ =>
        obtain ⟨rfl, -⟩ := List.cons.inj hback
        exact h₁.ends_escaped front c back₁ hraw₁ hc
  · rw [endsOdd_append_iff h₁.closed]
    exact h₂.closed

theorem keptWhole_plain (hc : IsPlain c) : KeptWhole [c] := by
  have hends : endsKey c = false := by
    rw [endsKey, hc.not_separator, hc.not_space]
    rfl
  refine ⟨unbroken_cons.mpr ⟨hc.not_lineEnd, unbroken_nil⟩, ?_, ?_, ?_⟩
  · rintro d hd
    cases hd
    exact ⟨hc.not_space, hc.not_comment⟩
  · intro front d back hraw hd
    have hmem : d ∈ [c] := by simp [hraw]
    rw [List.mem_singleton] at hmem
    rw [hmem, hends] at hd
    cases hd
  · rw [← List.nil_append [c], endsOdd_concat_iff]
    exact fun h => hc.ne_backslash h.1

theorem keptWhole_of_forall (h : ∀ c ∈ raw, IsPlain c) : KeptWhole raw := by
  induction raw with
  | nil => exact keptWhole_nil
  | cons c raw ih =>
    obtain ⟨hc, hraw⟩ := List.forall_mem_cons.mp h
    exact (keptWhole_plain hc).append (ih hraw)

/-- Whatever a backslash stands in front of, the two are kept, unless a line ends there. -/
theorem keptWhole_escaped (hd : d ≠ '\n' ∧ d ≠ '\r') : KeptWhole ['\\', d] := by
  have hbackslash : EndsOdd ['\\'] := by decide
  refine ⟨?_, ?_, ?_, ?_⟩
  · exact unbroken_cons.mpr ⟨by decide, unbroken_cons.mpr ⟨hd, unbroken_nil⟩⟩
  · rintro c hc
    cases hc
    decide
  · intro front c back hraw hc
    rcases front with _ | ⟨b, _ | ⟨b', front⟩⟩
    · cases hraw
      cases hc
    · cases hraw
      exact hbackslash
    · simp at hraw
  · rw [← List.singleton_append, endsOdd_concat_iff]
    exact fun h => h.2 hbackslash

theorem keptWhole_escape (text : List Char) : KeptWhole (escape text) := by
  induction text with
  | nil => exact keptWhole_nil
  | cons c text ih =>
    rw [escape_cons]
    rcases escapeChar_cases c with ⟨d, hescape, hd⟩ | ⟨hescape, hc⟩
    · rw [hescape]
      exact (keptWhole_escaped hd.not_lineEnd).append ih
    · rw [hescape]
      exact (keptWhole_plain hc).append ih

/-! ## The line of an entry -/

theorem KeptWhole.isEntry (hkey : KeptWhole key) (hvalue : KeptWhole value) :
    IsEntry (key ++ '=' :: value) key ['='] value [] where
  line_eq := by simp
  key_unbroken := hkey.ends_escaped
  key_ends := by
    rintro c hc
    cases hc
    exact ⟨rfl, hkey.closed⟩
  gap_blank := List.forall_mem_singleton.mpr rfl
  gap_once := Nat.le_refl 1
  gap_ends := by
    intro c hc
    rw [List.append_nil] at hc
    exact ⟨(hvalue.startsPlain c hc).1, fun _ => rfl⟩
  tail_blank := by
    intro front c back htail
    simp at htail
  value_ends := by
    intro front c hraw hc
    have hends : endsKey c = true := by simp [endsKey, hc]
    exact hvalue.ends_escaped front c [] hraw hends

theorem KeptWhole.unbroken_line (hkey : KeptWhole key) (hvalue : KeptWhole value) :
    Unbroken (key ++ '=' :: value) :=
  hkey.unbroken.append (unbroken_cons.mpr ⟨by decide, hvalue.unbroken⟩)

/-- A line that starts with nothing that is dropped and does not go on is a logical line. -/
theorem assemble_cons {line : List Char} (hne : line ≠ []) (hstart : StartsPlain line)
    (hopen : isOpen line.reverse = false) (number : Nat) (lines : List (List Char)) :
    assemble none number (line :: lines) = (number, line) :: assemble none (number + 1) lines := by
  obtain ⟨c, rest, rfl⟩ := List.exists_cons_of_ne_nil hne
  obtain ⟨hspace, hhash, hbang⟩ := hstart c rfl
  have htrim : trimStart (c :: rest) = c :: rest := by simp [trimStart, hspace]
  have hskipped : isSkipped (c :: rest) = false := by simp [isSkipped, hhash, hbang]
  rw [assemble]
  simp only [htrim, hskipped, hopen, Bool.false_eq_true, if_false]
  simp [entryLine]

theorem KeptWhole.assemble_line (hkey : KeptWhole key) (hvalue : KeptWhole value) (number : Nat)
    (lines : List (List Char)) : assemble none number ((key ++ '=' :: value) :: lines) =
      (number, key ++ '=' :: value) :: assemble none (number + 1) lines := by
  have hstarts : StartsPlain (key ++ '=' :: value) := by
    refine hkey.startsPlain.append ?_
    rintro c hc
    cases hc
    decide
  have hclosed : ¬ EndsOdd (key ++ '=' :: value) := by
    have hsign : ¬ EndsOdd (key ++ ['=']) := by
      rw [endsOdd_concat_iff]
      exact fun h => absurd h.1 (by decide)
    rw [List.append_cons, endsOdd_append_iff hsign]
    exact hvalue.closed
  refine assemble_cons (by simp) hstarts ?_ number lines
  rw [isOpen_reverse]
  exact decide_eq_false hclosed

/-- A key and a value that are kept whole make a text of one entry, and an error is on its only
line. -/
theorem parse_keptWhole (hkey : KeptWhole key) (hvalue : KeptWhole value) :
    parse (String.ofList (key ++ '=' :: value)) =
      ((unescape key).bind fun key => (unescape value).map fun value =>
        [(String.ofList key, String.ofList value)]).mapError (⟨1, ·⟩) := by
  rw [parse, String.toList_ofList, logicalLines,
    naturalLines_of_unbroken (hkey.unbroken_line hvalue), hkey.assemble_line hvalue, readEntries,
    readEntry_eq (hkey.isEntry hvalue)]
  cases unescape key with
  | error cause => rfl
  | ok key =>
    cases unescape value with
    | error cause => rfl
    | ok value => rfl

end Enrich.Properties
