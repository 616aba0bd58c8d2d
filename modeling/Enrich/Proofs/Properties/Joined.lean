import Enrich.Proofs.Properties.LogicalLines
import Enrich.Proofs.Properties.NaturalLines
import Enrich.Properties.Entry

/-!
# Texts of entries put together

A newline behind a text that does not end in a carriage return starts a new natural line, and behind
a line that does not end in a backslash no logical line is open. So two texts one after the other are
read one after the other, and the lines of the second one are only counted from where it starts
(`parse_append_newline`). `assemble_append_closed` is this fact about lines and `assemble_shift` is
that about their numbers.
-/

namespace Enrich.Properties

variable {text text₁ text₂ line last before : List Char} {lines lines₁ lines₂ rest : List (List Char)}
  {number first : Nat}

/-! ## Natural lines -/

/-- The number of line ends in a text. A carriage return and the newline behind it are one. -/
def lineEnds : List Char → Nat
  | [] => 0
  | '\r' :: '\n' :: text => lineEnds text + 1
  | c :: text => if c = '\n' ∨ c = '\r' then lineEnds text + 1 else lineEnds text

theorem lineEnds_append (hline : Unbroken line) (text : List Char) :
    lineEnds (line ++ text) = lineEnds text := by
  induction line with
  | nil => rfl
  | cons c line ih =>
    obtain ⟨⟨hnewline, hreturn⟩, hline⟩ := unbroken_cons.mp hline
    rw [List.cons_append, lineEnds, if_neg (by simp [hnewline, hreturn]), ih hline]
    intro behind hc
    exact absurd hc hreturn

theorem lineEnds_return (hnext : text.head? ≠ some '\n') :
    lineEnds ('\r' :: text) = lineEnds text + 1 := by
  rw [lineEnds, if_pos (.inr rfl)]
  rintro behind - rfl
  exact hnext rfl

theorem AreNaturalLines.length_eq (h : AreNaturalLines text lines) :
    lines.length = lineEnds text + 1 := by
  induction h with
  | @last line hline =>
    have hends := lineEnds_append hline []
    rw [List.append_nil] at hends
    rw [hends]
    rfl
  | newline hline _ ih => rw [lineEnds_append hline, List.length_cons, ih]; rfl
  | returnNewline hline _ ih => rw [lineEnds_append hline, List.length_cons, ih]; rfl
  | «return» hline hnext _ ih =>
    rw [lineEnds_append hline, lineEnds_return hnext, List.length_cons, ih]

theorem getLast?_ne_of_suffix {c : Char} (h : text₂ <:+ text₁) (hlast : text₁.getLast? ≠ some c) :
    text₂.getLast? ≠ some c := by
  obtain ⟨front, rfl⟩ := h
  intro heq
  rw [List.getLast?_append, heq] at hlast
  exact hlast rfl

theorem suffix_behind (line text : List Char) (c : Char) : text <:+ line ++ c :: text :=
  (List.suffix_cons c text).trans (List.suffix_append line _)

/-- A newline behind a text starts a line, unless it belongs to a carriage return. -/
theorem AreNaturalLines.append (h₁ : AreNaturalLines text₁ lines₁)
    (hreturn : text₁.getLast? ≠ some '\r') (h₂ : AreNaturalLines text₂ lines₂) :
    AreNaturalLines (text₁ ++ '\n' :: text₂) (lines₁ ++ lines₂) := by
  induction h₁ with
  | last hline => exact .newline hline h₂
  | @newline line text _ hline _ ih =>
    have htext := getLast?_ne_of_suffix (suffix_behind line text '\n') hreturn
    rw [List.append_assoc]
    exact .newline hline (ih htext)
  | @returnNewline line text _ hline _ ih =>
    have hsuffix := (List.suffix_cons '\n' text).trans (suffix_behind line ('\n' :: text) '\r')
    have htext := getLast?_ne_of_suffix hsuffix hreturn
    rw [List.append_assoc]
    exact .returnNewline hline (ih htext)
  | @«return» line text _ hline hnext _ ih =>
    have htext := getLast?_ne_of_suffix (suffix_behind line text '\r') hreturn
    -- The carriage return is not the last character, so it stays the end of a line of its own.
    have hhead : (text ++ '\n' :: text₂).head? ≠ some '\n' := by
      cases text with
      | nil => exact absurd List.getLast?_concat hreturn
      | cons c text => simpa using hnext
    rw [List.append_assoc]
    exact .return hline hhead (ih htext)

/-- The last line of a text is what the text ends in. -/
theorem AreNaturalLines.exists_last (h : AreNaturalLines text lines) :
    ∃ front last, lines = front ++ [last] ∧ last <:+ text := by
  induction h with
  | @last line => exact ⟨[], line, rfl, List.suffix_rfl⟩
  | @newline line text lines _ _ ih =>
    obtain ⟨front, last, rfl, hlast⟩ := ih
    exact ⟨line :: front, last, rfl, hlast.trans (suffix_behind line text '\n')⟩
  | @returnNewline line text lines _ _ ih =>
    obtain ⟨front, last, rfl, hlast⟩ := ih
    have hsuffix := (List.suffix_cons '\n' text).trans (suffix_behind line ('\n' :: text) '\r')
    exact ⟨line :: front, last, rfl, hlast.trans hsuffix⟩
  | @«return» line text lines _ _ _ ih =>
    obtain ⟨front, last, rfl, hlast⟩ := ih
    exact ⟨line :: front, last, rfl, hlast.trans (suffix_behind line text '\r')⟩

theorem not_endsOdd_of_getLast? (h : text.getLast? ≠ some '\\') : ¬ EndsOdd text := by
  rintro ⟨front, n, rfl, -⟩
  rw [List.replicate_succ', ← List.append_assoc, List.getLast?_concat] at h
  exact h rfl

/-! ## Logical lines -/

theorem assemble_none_append {behind : List (Nat × List Char)}
    (hskip : assemble none (number + 1) (lines ++ rest) = assemble none (number + 1) lines ++ behind)
    (hopen : assemble (some (number, [])) number (line :: (lines ++ rest)) =
      assemble (some (number, [])) number (line :: lines) ++ behind) :
    assemble none number (line :: (lines ++ rest)) =
      assemble none number (line :: lines) ++ behind := by
  cases hskipped : isSkipped (trimStart line) with
  | true => rw [assemble_skipped hskipped, assemble_skipped hskipped, hskip]
  | false => rw [assemble_open hskipped, assemble_open hskipped, hopen]

/-- Behind a line that does not end in an odd number of backslashes no logical line is open. -/
theorem assemble_append_closed (front : List (List Char)) (hlast : ¬ EndsOdd last)
    (rest : List (List Char)) :
    (∀ number, assemble none number (front ++ [last] ++ rest) =
      assemble none number (front ++ [last]) ++ assemble none (number + front.length + 1) rest) ∧
    ∀ first before number, ¬ EndsOdd before →
      assemble (some (first, before.reverse)) number (front ++ [last] ++ rest) =
        assemble (some (first, before.reverse)) number (front ++ [last]) ++
          assemble none (number + front.length + 1) rest := by
  -- With and without an open line at once: a line opens one if none is open, and may end it.
  induction front with
  | nil =>
    have hopen : ∀ first before number, ¬ EndsOdd before →
        assemble (some (first, before.reverse)) number (last :: ([] ++ rest)) =
          assemble (some (first, before.reverse)) number [last] ++
            assemble none (number + 1) rest := by
      intro first before number hbefore
      rw [assemble_ends hbefore hlast, assemble_ends hbefore hlast, assemble, List.append_nil,
        List.nil_append]
    exact ⟨fun number => assemble_none_append rfl (hopen number [] number not_endsOdd_nil), hopen⟩
  | cons line front ih =>
    obtain ⟨hnone, hsome⟩ := ih
    have hnumber : ∀ number,
        number + 1 + front.length + 1 = number + (line :: front).length + 1 := by
      intro number
      rw [List.length_cons]
      omega
    have hopen : ∀ first before number, ¬ EndsOdd before →
        assemble (some (first, before.reverse)) number (line :: (front ++ [last] ++ rest)) =
          assemble (some (first, before.reverse)) number (line :: (front ++ [last])) ++
            assemble none (number + (line :: front).length + 1) rest := by
      intro first before number hbefore
      by_cases hline : EndsOdd line
      · rw [assemble_goes_on hbefore hline, assemble_goes_on hbefore hline,
          hsome _ _ _ (not_endsOdd_append_addition hbefore hline), hnumber]
      · rw [assemble_ends hbefore hline, assemble_ends hbefore hline, hnone, hnumber,
          List.append_assoc]
    have hskip : ∀ number, assemble none (number + 1) (front ++ [last] ++ rest) =
        assemble none (number + 1) (front ++ [last]) ++
          assemble none (number + (line :: front).length + 1) rest := by
      intro number
      rw [hnone, hnumber]
    exact ⟨fun number => assemble_none_append (hskip number)
      (hopen number [] number not_endsOdd_nil), hopen⟩

/-- A logical line that starts so many lines further on. -/
def shift (k : Nat) (numbered : Nat × List Char) : Nat × List Char :=
  (numbered.1 + k, numbered.2)

theorem entryLine_shift (k : Nat) (reversed : List Char) :
    entryLine (first + k) reversed = (entryLine first reversed).map (shift k) := by
  unfold entryLine
  split <;> rfl

theorem assemble_shift (k : Nat) (pending : Option (Nat × List Char)) (number : Nat)
    (lines : List (List Char)) :
    assemble (pending.map (shift k)) (number + k) lines =
      (assemble pending number lines).map (shift k) := by
  induction lines generalizing pending number with
  | nil =>
    cases pending with
    | none => rfl
    | some pending => exact entryLine_shift k pending.2
  | cons line lines ih =>
    have hnumber : number + k + 1 = number + 1 + k := Nat.add_right_comm number k 1
    have hnone := ih none (number + 1)
    cases pending with
    | none =>
      simp only [Option.map_none, assemble, hnumber]
      split
      · exact hnone
      · split
        · exact ih (some (number, _)) (number + 1)
        · rw [List.map_append, entryLine_shift]
          exact congrArg _ hnone
    | some pending =>
      obtain ⟨first, before⟩ := pending
      simp only [Option.map_some, shift, assemble, hnumber]
      split
      · exact ih (some (first, _)) (number + 1)
      · rw [List.map_append, entryLine_shift]
        exact congrArg _ hnone

theorem logicalLines_append (hbackslash : text₁.getLast? ≠ some '\\')
    (hreturn : text₁.getLast? ≠ some '\r') : logicalLines (text₁ ++ '\n' :: text₂) =
      logicalLines text₁ ++ (logicalLines text₂).map (shift (lineEnds text₁ + 1)) := by
  have hlines₁ : AreNaturalLines text₁ (naturalLines text₁) := areNaturalLines_iff.mpr rfl
  have hlines₂ : AreNaturalLines text₂ (naturalLines text₂) := areNaturalLines_iff.mpr rfl
  obtain ⟨front, last, hfront, hsuffix⟩ := hlines₁.exists_last
  have hlast : ¬ EndsOdd last := not_endsOdd_of_getLast? (getLast?_ne_of_suffix hsuffix hbackslash)
  have hlength : 1 + front.length + 1 = 1 + (lineEnds text₁ + 1) := by
    rw [← hlines₁.length_eq, hfront, List.length_append, List.length_singleton, Nat.add_assoc]
  have hshift := assemble_shift (lineEnds text₁ + 1) none 1 (naturalLines text₂)
  rw [Option.map_none] at hshift
  unfold logicalLines
  rw [← (hlines₁.append hreturn hlines₂).eq, hfront,
    (assemble_append_closed front hlast (naturalLines text₂)).1 1, hlength, hshift]

/-! ## Entries -/

theorem readEntries_append (lines₁ lines₂ : List (Nat × List Char)) :
    readEntries (lines₁ ++ lines₂) =
      (readEntries lines₁).bind fun entries => (readEntries lines₂).map (entries ++ ·) := by
  induction lines₁ with
  | nil =>
    change readEntries lines₂ = (readEntries lines₂).map id
    cases readEntries lines₂ <;> rfl
  | cons numbered lines₁ ih =>
    obtain ⟨number, line⟩ := numbered
    rw [List.cons_append, readEntries, readEntries, ih]
    cases readEntry line with
    | error cause => rfl
    | ok entry =>
      cases readEntries lines₁ with
      | error e => rfl
      | ok entries => cases readEntries lines₂ <;> rfl

theorem readEntries_shift (k : Nat) (lines : List (Nat × List Char)) :
    readEntries (lines.map (shift k)) =
      (readEntries lines).mapError fun e => ⟨e.line + k, e.cause⟩ := by
  induction lines with
  | nil => rfl
  | cons numbered lines ih =>
    obtain ⟨number, line⟩ := numbered
    rw [List.map_cons, shift, readEntries, readEntries, ih]
    cases readEntry line with
    | error cause => rfl
    | ok entry => cases readEntries lines <;> rfl

/-- **Texts of entries are read one after the other.** If a text ends in neither a backslash nor a
carriage return, a newline and another text can be put behind it: if both can be read, the entries of
the first one come before those of the second; an error in the first one stays as it is; and if only
the second one is in error, the line is counted on from the lines of the first. -/
theorem parse_append_newline {text₁ text₂ : String} (hbackslash : text₁.toList.getLast? ≠ some '\\')
    (hreturn : text₁.toList.getLast? ≠ some '\r') :
    (∀ entries₁ entries₂, parse text₁ = .ok entries₁ → parse text₂ = .ok entries₂ →
      parse (text₁ ++ "\n" ++ text₂) = .ok (entries₁ ++ entries₂)) ∧
    (∀ e, parse text₁ = .error e → parse (text₁ ++ "\n" ++ text₂) = .error e) ∧
    ∀ entries₁ e, parse text₁ = .ok entries₁ → parse text₂ = .error e →
      parse (text₁ ++ "\n" ++ text₂) =
        .error ⟨e.line + (lineEnds text₁.toList + 1), e.cause⟩ := by
  have hchars : (text₁ ++ "\n" ++ text₂).toList = text₁.toList ++ '\n' :: text₂.toList := by
    simp
  have hparse : parse (text₁ ++ "\n" ++ text₂) = (parse text₁).bind fun entries =>
      ((parse text₂).mapError fun e => ⟨e.line + (lineEnds text₁.toList + 1), e.cause⟩).map
        (entries ++ ·) := by
    rw [parse, hchars, logicalLines_append hbackslash hreturn, readEntries_append, readEntries_shift]
    rfl
  refine ⟨fun entries₁ entries₂ h₁ h₂ => ?_, fun e h₁ => ?_, fun entries₁ e h₁ h₂ => ?_⟩
  · rw [hparse, h₁, h₂]
    rfl
  · rw [hparse, h₁]
    rfl
  · rw [hparse, h₁, h₂]
    rfl

/-- A comment that ends in a backslash, a line that goes on in an empty one, and all kinds of line
ends. -/
theorem parse_append_newline_endings :
    parse ("a=1\r\n#c\\\rb=2\\\n" ++ "\n" ++ "#\nx=\\u12") = .error ⟨6, .malformedUnit⟩ ∧
      parse ("a=1\r\n#c\\\rb=2\\\n" ++ "\n" ++ "#\nx=3\\") =
        .ok [("a", "1"), ("b", "2"), ("x", "3")] := by
  have hbackslash : ("a=1\r\n#c\\\rb=2\\\n" : String).toList.getLast? ≠ some '\\' := by decide
  have hreturn : ("a=1\r\n#c\\\rb=2\\\n" : String).toList.getLast? ≠ some '\r' := by decide
  have h₁ : parse "a=1\r\n#c\\\rb=2\\\n" = .ok [("a", "1"), ("b", "2")] := by decide +kernel
  have hfails : parse "#\nx=\\u12" = .error ⟨2, .malformedUnit⟩ := by decide +kernel
  have h₂ : parse "#\nx=3\\" = .ok [("x", "3")] := by decide +kernel
  constructor
  · exact (parse_append_newline hbackslash hreturn).2.2 _ _ h₁ hfails
  · exact (parse_append_newline hbackslash hreturn).1 _ _ h₁ h₂

end Enrich.Properties
