import Enrich.Proofs.Properties.Joined

/-!
# Lines broken in two

A line may be broken anywhere by a backslash and a newline, and the blanks that start the next line
do not count, so the text means what it meant before (`parse_lineBreak`). Two things are asked of
the line in front of the break: it must be part of a logical line, and the new backslash must not
stand behind one that escapes it. `exists_assemble_append` says what a run of lines leaves open, and
from there `isLater_lineBreak` compares the two ways to go on. The logical lines behind the break are
only counted one further (`IsLater`).
-/

namespace Enrich.Properties

variable {text text₁ text₂ line last next before blanks : List Char}
  {front lines lines₁ rest : List (List Char)} {number first k : Nat}
  {pending : Option (Nat × List Char)} {logical logical' : List (Nat × List Char)}

/-! ## Natural lines of a broken line -/

theorem unbroken_of_isSpace (h : ∀ c ∈ blanks, isSpace c = true) : Unbroken blanks := by
  intro c hc
  have hspace := h c hc
  constructor
  · rintro rfl
    cases hspace
  · rintro rfl
    cases hspace

/-- A piece of text in front that ends no line belongs to the first line. -/
theorem AreNaturalLines.append_left (hline : Unbroken line)
    (h : AreNaturalLines text (next :: rest)) :
    AreNaturalLines (line ++ text) ((line ++ next) :: rest) := by
  induction line with
  | nil => exact h
  | cons c line ih =>
    obtain ⟨hc, hline⟩ := unbroken_cons.mp hline
    obtain ⟨found, others, hlines, hcons⟩ := (ih hline).cons hc
    cases hlines
    exact hcons

/-- The first line of a text is what the text starts with. -/
theorem AreNaturalLines.exists_first (h : AreNaturalLines text lines) :
    ∃ next rest, lines = next :: rest ∧ next <+: text := by
  cases h with
  | last _ => exact ⟨_, _, rfl, List.prefix_rfl⟩
  | newline _ _ => exact ⟨_, _, rfl, List.prefix_append _ _⟩
  | returnNewline _ _ => exact ⟨_, _, rfl, List.prefix_append _ _⟩
  | «return» _ _ _ => exact ⟨_, _, rfl, List.prefix_append _ _⟩

theorem AreNaturalLines.unbroken (h : AreNaturalLines text lines) :
    ∀ line ∈ lines, Unbroken line := by
  induction h with
  | last hline => exact List.forall_mem_singleton.mpr hline
  | newline hline _ ih => exact List.forall_mem_cons.mpr ⟨hline, ih⟩
  | returnNewline hline _ ih => exact List.forall_mem_cons.mpr ⟨hline, ih⟩
  | «return» hline _ _ ih => exact List.forall_mem_cons.mpr ⟨hline, ih⟩

/-- The last line of a text goes on in the first line of a text right behind it, unless a carriage
return and a newline meet there. -/
theorem AreNaturalLines.exists_join (h : AreNaturalLines text₁ lines₁)
    (hreturn : text₁.getLast? ≠ some '\r') : ∃ front last, lines₁ = front ++ [last] ∧
      ∀ text₂ next rest, AreNaturalLines text₂ (next :: rest) →
        AreNaturalLines (text₁ ++ text₂) (front ++ (last ++ next) :: rest) := by
  induction h with
  | @last line hline => exact ⟨[], line, rfl, fun _ _ _ h₂ => h₂.append_left hline⟩
  | @newline line text _ hline _ ih =>
    have htext := getLast?_ne_of_suffix (suffix_behind line text '\n') hreturn
    obtain ⟨front, last, rfl, hjoin⟩ := ih htext
    refine ⟨line :: front, last, rfl, fun text₂ next rest h₂ => ?_⟩
    rw [List.append_assoc]
    exact .newline hline (hjoin text₂ next rest h₂)
  | @returnNewline line text _ hline _ ih =>
    have hsuffix := (List.suffix_cons '\n' text).trans (suffix_behind line ('\n' :: text) '\r')
    have htext := getLast?_ne_of_suffix hsuffix hreturn
    obtain ⟨front, last, rfl, hjoin⟩ := ih htext
    refine ⟨line :: front, last, rfl, fun text₂ next rest h₂ => ?_⟩
    rw [List.append_assoc]
    exact .returnNewline hline (hjoin text₂ next rest h₂)
  | @«return» line text _ hline hnext _ ih =>
    have htext := getLast?_ne_of_suffix (suffix_behind line text '\r') hreturn
    obtain ⟨front, last, rfl, hjoin⟩ := ih htext
    refine ⟨line :: front, last, rfl, fun text₂ next rest h₂ => ?_⟩
    have hhead : (text ++ text₂).head? ≠ some '\n' := by
      cases text with
      | nil => exact absurd List.getLast?_concat hreturn
      | cons c text => exact hnext
    rw [List.append_assoc]
    exact .return hline hhead (hjoin text₂ next rest h₂)

/-! ## What is open behind some lines -/

/-- Whether a logical line is open behind a line, given whether one is open before it. -/
def staysOpen (isOpen : Bool) (line : List Char) : Bool :=
  (isOpen || !isSkipped (trimStart line)) && decide (EndsOdd line)

/-- Whether a line behind some others is a comment: no logical line is open there, and it starts
with one of the two signs when its blanks are dropped. -/
def IsComment (front : List (List Char)) (line : List Char) : Prop :=
  front.foldl staysOpen false = false ∧
    ∃ c, (trimStart line).head? = some c ∧ (c = '#' ∨ c = '!')

/-- Whether the next line can be put to what is open: if anything is, it ends in an even number of
backslashes. -/
def Joinable (pending : Option (Nat × List Char)) : Prop :=
  ∀ first before, pending = some (first, before.reverse) → ¬ EndsOdd before

theorem joinable_none : Joinable none := by
  intro first before h
  cases h

theorem joinable_some : Joinable (some (first, before.reverse)) ↔ ¬ EndsOdd before := by
  constructor
  · exact fun h => h first before rfl
  · intro h _ _ heq
    obtain ⟨rfl, hreversed⟩ := Prod.mk.inj (Option.some.inj heq)
    rwa [← List.reverse_inj.mp hreversed]

/-- One line ends what is open or leaves it open, whatever lines follow. -/
theorem exists_assemble_cons (hpending : Joinable pending) (number : Nat) (line : List Char) :
    ∃ done after, Joinable after ∧ after.isSome = staysOpen pending.isSome line ∧
      ∀ rest, assemble pending number (line :: rest) = done ++ assemble after (number + 1) rest := by
  have hopen : ∀ first before, ¬ EndsOdd before →
      ∃ done after, Joinable after ∧ after.isSome = decide (EndsOdd line) ∧
        ∀ rest, assemble (some (first, before.reverse)) number (line :: rest) =
          done ++ assemble after (number + 1) rest := by
    intro first before hbefore
    by_cases hline : EndsOdd line
    · refine ⟨[], some (first, (before ++ addition line).reverse), ?_, ?_, fun rest => ?_⟩
      · exact joinable_some.mpr (not_endsOdd_append_addition hbefore hline)
      · simp [hline]
      · exact assemble_goes_on hbefore hline
    · refine ⟨_, none, joinable_none, ?_, fun rest => assemble_ends hbefore hline⟩
      simp [hline]
  cases pending with
  | some pending =>
    obtain ⟨first, reversed⟩ := pending
    have hreversed : reversed = reversed.reverse.reverse := (List.reverse_reverse reversed).symm
    rw [hreversed] at hpending ⊢
    exact hopen first reversed.reverse (joinable_some.mp hpending)
  | none =>
    cases hskipped : isSkipped (trimStart line) with
    | true =>
      refine ⟨[], none, joinable_none, ?_, fun rest => assemble_skipped hskipped⟩
      simp [staysOpen, hskipped]
    | false =>
      obtain ⟨done, after, hafter, hsome, hassemble⟩ := hopen number [] not_endsOdd_nil
      refine ⟨done, after, hafter, ?_, fun rest => ?_⟩
      · simp [staysOpen, hskipped, hsome]
      · rw [assemble_open hskipped]
        exact hassemble rest

/-- What some lines leave open does not depend on the lines behind them. -/
theorem exists_assemble_append (front : List (List Char)) (hpending : Joinable pending)
    (number : Nat) : ∃ done after, Joinable after ∧
      after.isSome = front.foldl staysOpen pending.isSome ∧
      ∀ rest, assemble pending number (front ++ rest) =
        done ++ assemble after (number + front.length) rest := by
  induction front generalizing pending number with
  | nil => exact ⟨[], pending, hpending, rfl, fun rest => rfl⟩
  | cons line front ih =>
    obtain ⟨done, after, hafter, hsome, hline⟩ := exists_assemble_cons hpending number line
    obtain ⟨others, last, hlast, hopen, hfront⟩ := ih hafter (number + 1)
    refine ⟨done ++ others, last, hlast, ?_, fun rest => ?_⟩
    · rw [hopen, hsome, List.foldl_cons]
    · rw [List.cons_append, hline, hfront, List.append_assoc, List.length_cons, Nat.add_right_comm,
        Nat.add_assoc number]

/-! ## Logical lines counted further on -/

/-- Whether some logical lines are others of which the last ones start so many lines further on. -/
def IsLater (k : Nat) (logical logical' : List (Nat × List Char)) : Prop :=
  ∃ front back, logical = front ++ back ∧ logical' = front ++ back.map (shift k)

theorem IsLater.append_left (front : List (Nat × List Char)) (h : IsLater k logical logical') :
    IsLater k (front ++ logical) (front ++ logical') := by
  obtain ⟨front', back, rfl, rfl⟩ := h
  exact ⟨front ++ front', back, (List.append_assoc _ _ _).symm, (List.append_assoc _ _ _).symm⟩

/-- From further lines on all logical lines start further on but the one that is open. -/
theorem isLater_assemble (k : Nat) (first : Nat) (reversed : List Char) (number : Nat)
    (lines : List (List Char)) :
    IsLater k (assemble (some (first, reversed)) number lines)
      (assemble (some (first, reversed)) (number + k) lines) := by
  induction lines generalizing reversed number with
  | nil => exact ⟨entryLine first reversed, [], by simp [assemble], by simp [assemble]⟩
  | cons line lines ih =>
    have hnumber : number + k + 1 = number + 1 + k := Nat.add_right_comm number k 1
    simp only [assemble, hnumber]
    split
    · exact ih _ (number + 1)
    · exact ⟨_, _, rfl, by rw [← assemble_shift, Option.map_none]⟩

/-! ## The broken line -/

theorem trimStart_append (h : ∃ c ∈ line, isSpace c = false) (text : List Char) :
    trimStart (line ++ text) = trimStart line ++ text := by
  have hline : ¬ (line.dropWhile isSpace).isEmpty = true := by
    simpa [List.isEmpty_iff, List.dropWhile_eq_nil_iff] using h
  rw [trimStart, List.dropWhile_append, if_neg hline, trimStart]

theorem trimStart_blanks (hblanks : ∀ c ∈ blanks, isSpace c = true)
    (hnext : ∀ c, next.head? = some c → isSpace c = false) : trimStart (blanks ++ next) = next := by
  rw [trimStart, List.dropWhile_append_of_pos hblanks]
  cases next with
  | nil => rfl
  | cons c next => rw [List.dropWhile_cons_of_neg (by simp [hnext c rfl])]

/-- What the two halves of a broken line add to their logical line is what the whole line adds. -/
theorem addition_lineBreak (hfilled : ∃ c ∈ last, isSpace c = false) (heven : ¬ EndsOdd last)
    (hblanks : ∀ c ∈ blanks, isSpace c = true)
    (hnext : ∀ c, next.head? = some c → isSpace c = false) :
    addition (last ++ next) = addition (last ++ ['\\']) ++ addition (blanks ++ next) := by
  have hodd : EndsOdd (last ++ ['\\']) := endsOdd_concat_iff.mpr ⟨rfl, heven⟩
  have hbehind : EndsOdd (blanks ++ next) ↔ EndsOdd next :=
    endsOdd_append_iff (not_endsOdd_of_isSpace hblanks)
  have hfirst : addition (last ++ ['\\']) = trimStart last := by
    rw [addition, if_pos hodd, trimStart_append hfilled, List.dropLast_concat]
  rw [hfirst, addition, addition, trimStart_append hfilled, trimStart_blanks hblanks hnext]
  simp only [endsOdd_append_iff heven, hbehind]
  split
  · next hodd => rw [List.dropLast_append_of_ne_nil hodd.ne_nil]
  · rfl

theorem isLater_lineBreak_open (hfilled : ∃ c ∈ last, isSpace c = false) (heven : ¬ EndsOdd last)
    (hblanks : ∀ c ∈ blanks, isSpace c = true)
    (hnext : ∀ c, next.head? = some c → isSpace c = false) (hbefore : ¬ EndsOdd before)
    (first number : Nat) (rest : List (List Char)) :
    IsLater 1 (assemble (some (first, before.reverse)) number ((last ++ next) :: rest))
      (assemble (some (first, before.reverse)) number
        ((last ++ ['\\']) :: (blanks ++ next) :: rest)) := by
  have hodd : EndsOdd (last ++ ['\\']) := endsOdd_concat_iff.mpr ⟨rfl, heven⟩
  have hbehind : EndsOdd (blanks ++ next) ↔ EndsOdd next :=
    endsOdd_append_iff (not_endsOdd_of_isSpace hblanks)
  have hwhole : EndsOdd (last ++ next) ↔ EndsOdd next := endsOdd_append_iff heven
  have hhalf := not_endsOdd_append_addition hbefore hodd
  rw [assemble_goes_on hbefore hodd]
  by_cases hends : EndsOdd next
  · rw [assemble_goes_on hbefore (hwhole.mpr hends), assemble_goes_on hhalf (hbehind.mpr hends),
      List.append_assoc, ← addition_lineBreak hfilled heven hblanks hnext]
    exact isLater_assemble 1 first _ (number + 1) rest
  · rw [assemble_ends hbefore (mt hwhole.mp hends), assemble_ends hhalf (mt hbehind.mp hends),
      List.append_assoc, ← addition_lineBreak hfilled heven hblanks hnext]
    exact ⟨_, _, rfl, by rw [← assemble_shift, Option.map_none]⟩

theorem isSkipped_eq_false (hfilled : ∃ c ∈ line, isSpace c = false)
    (hsigns : ∀ c, (trimStart line).head? = some c → c ≠ '#' ∧ c ≠ '!') (text : List Char) :
    isSkipped (trimStart (line ++ text)) = false := by
  rw [trimStart_append hfilled]
  cases htrim : trimStart line with
  | nil =>
    obtain ⟨c, hc, hspace⟩ := hfilled
    rw [List.dropWhile_eq_nil_iff.mp htrim c hc] at hspace
    cases hspace
  | cons c rest =>
    obtain ⟨hhash, hbang⟩ := hsigns c (by rw [htrim]; rfl)
    simp [isSkipped, hhash, hbang]

/-- A line that is part of a logical line may be broken, and the logical lines behind it start one
line later. -/
theorem isLater_lineBreak (hfilled : ∃ c ∈ last, isSpace c = false)
    (hcomment : ¬ IsComment front last) (heven : ¬ EndsOdd last)
    (hblanks : ∀ c ∈ blanks, isSpace c = true)
    (hnext : ∀ c, next.head? = some c → isSpace c = false) (rest : List (List Char)) :
    IsLater 1 (assemble none 1 (front ++ (last ++ next) :: rest))
      (assemble none 1 (front ++ (last ++ ['\\']) :: (blanks ++ next) :: rest)) := by
  obtain ⟨done, after, hafter, hopen, hfront⟩ := exists_assemble_append front joinable_none 1
  rw [hfront, hfront]
  refine .append_left done ?_
  cases after with
  | some after =>
    obtain ⟨first, reversed⟩ := after
    rw [← List.reverse_reverse reversed] at hafter ⊢
    exact isLater_lineBreak_open hfilled heven hblanks hnext (joinable_some.mp hafter) _ _ _
  | none =>
    -- Nothing is open, so the line opens a logical line, broken or not.
    have hsigns : ∀ c, (trimStart last).head? = some c → c ≠ '#' ∧ c ≠ '!' := by
      intro c hc
      rw [← not_or]
      exact fun hsign => hcomment ⟨hopen.symm, c, hc, hsign⟩
    rw [assemble_open (isSkipped_eq_false hfilled hsigns next),
      assemble_open (isSkipped_eq_false hfilled hsigns ['\\'])]
    exact isLater_lineBreak_open hfilled heven hblanks hnext not_endsOdd_nil _ _ _

/-! ## The whole text -/

/-- A text whose last line is not empty ends in no carriage return. -/
theorem AreNaturalLines.getLast?_ne_return (h : AreNaturalLines text (front ++ [last]))
    (hlast : last ≠ []) : text.getLast? ≠ some '\r' := by
  obtain ⟨front', last', hlines, hsuffix⟩ := h.exists_last
  obtain ⟨rfl, hsame⟩ := List.append_inj' hlines rfl
  cases hsame
  obtain ⟨before, rfl⟩ := hsuffix
  rw [List.getLast?_append_of_ne_nil before hlast]
  intro hreturn
  have hunbroken := h.unbroken last (by simp)
  exact (hunbroken '\r' (List.mem_of_getLast? hreturn)).2 rfl

/-- The logical lines of a text with a broken line in it. -/
theorem isLater_logicalLines (hlines : AreNaturalLines text₁ (front ++ [last]))
    (hfilled : ∃ c ∈ last, isSpace c = false) (hcomment : ¬ IsComment front last)
    (heven : ¬ EndsOdd last) (hblanks : ∀ c ∈ blanks, isSpace c = true)
    (hbehind : ∀ c, text₂.head? = some c → isSpace c = false) :
    IsLater 1 (logicalLines (text₁ ++ text₂))
      (logicalLines (text₁ ++ ['\\'] ++ '\n' :: (blanks ++ text₂))) := by
  obtain ⟨next, rest, hnatural, hprefix⟩ :=
    (areNaturalLines_iff.mpr rfl : AreNaturalLines text₂ (naturalLines text₂)).exists_first
  have hnext : AreNaturalLines text₂ (next :: rest) := areNaturalLines_iff.mpr hnatural.symm
  have hplain : ∀ c, next.head? = some c → isSpace c = false := by
    intro c hc
    obtain ⟨behind, rfl⟩ := hprefix
    exact hbehind c (by rw [List.head?_append, hc]; rfl)
  have hlast : last ≠ [] := by
    obtain ⟨c, hc, -⟩ := hfilled
    exact List.ne_nil_of_mem hc
  obtain ⟨front', last', hsame, hjoin⟩ := hlines.exists_join (hlines.getLast?_ne_return hlast)
  obtain ⟨rfl, heq⟩ := List.append_inj' hsame rfl
  cases heq
  have hwhole : AreNaturalLines (text₁ ++ text₂) (front ++ (last ++ next) :: rest) :=
    hjoin text₂ next rest hnext
  have hhalf : AreNaturalLines (text₁ ++ ['\\']) (front ++ [last ++ ['\\']]) :=
    hjoin ['\\'] ['\\'] [] (.last (unbroken_cons.mpr ⟨by decide, unbroken_nil⟩))
  have hother : AreNaturalLines (blanks ++ text₂) ((blanks ++ next) :: rest) :=
    hnext.append_left (unbroken_of_isSpace hblanks)
  have hbroken := hhalf.append (by rw [List.getLast?_concat]; decide) hother
  rw [List.append_assoc front] at hbroken
  unfold logicalLines
  rw [← hwhole.eq, ← hbroken.eq]
  exact isLater_lineBreak hfilled hcomment heven hblanks hplain rest

theorem readEntries_isLater (h : IsLater k logical logical') :
    (∃ entries, readEntries logical = .ok entries ∧ readEntries logical' = .ok entries) ∨
      ∃ e line, readEntries logical = .error e ∧ readEntries logical' = .error ⟨line, e.cause⟩ ∧
        (line = e.line ∨ line = e.line + k) := by
  obtain ⟨front, back, rfl, rfl⟩ := h
  rw [readEntries_append, readEntries_append, readEntries_shift]
  cases readEntries front with
  | error e => exact .inr ⟨e, e.line, rfl, rfl, .inl rfl⟩
  | ok entries =>
    cases readEntries back with
    | error e => exact .inr ⟨e, e.line + k, rfl, rfl, .inr rfl⟩
    | ok others => exact .inl ⟨entries ++ others, rfl, rfl⟩

/-- **A line may be broken.** Let the last line of a text hold something but blanks, be no comment
and end in an even number of backslashes, and let what follows not start with a blank. Then a
backslash, a newline and any blanks may be put between the two: the text has the same entries, or it
cannot be read for the same cause, on the same line or on the one behind it. -/
theorem parse_lineBreak {text behind blanks : String} {front : List (List Char)} {last : List Char}
    (hlines : AreNaturalLines text.toList (front ++ [last]))
    (hfilled : ∃ c ∈ last, isSpace c = false) (hcomment : ¬ IsComment front last)
    (heven : ¬ EndsOdd last) (hblanks : ∀ c ∈ blanks.toList, isSpace c = true)
    (hbehind : ∀ c, behind.toList.head? = some c → isSpace c = false) :
    (∃ entries, parse (text ++ behind) = .ok entries ∧
      parse (text ++ "\\\n" ++ blanks ++ behind) = .ok entries) ∨
    ∃ e line, parse (text ++ behind) = .error e ∧
      parse (text ++ "\\\n" ++ blanks ++ behind) = .error ⟨line, e.cause⟩ ∧
      (line = e.line ∨ line = e.line + 1) := by
  have hwhole : (text ++ behind).toList = text.toList ++ behind.toList := by simp
  have hbroken : (text ++ "\\\n" ++ blanks ++ behind).toList =
      text.toList ++ ['\\'] ++ '\n' :: (blanks.toList ++ behind.toList) := by simp
  unfold parse
  rw [hwhole, hbroken]
  exact readEntries_isLater
    (isLater_logicalLines hlines hfilled hcomment heven hblanks hbehind)

/-- A break inside an escape, on a line that goes on another one and would be a comment on its own:
the entry stays as it is, and so does the cause of an error on a line behind it. -/
theorem parse_lineBreak_escape :
    parse ("k=\\\n#\\u00" ++ "e9") = .ok [("k", "#é")] ∧
      parse ("k=\\\n#\\u00" ++ "\\\n" ++ " \t" ++ "e9") = .ok [("k", "#é")] ∧
      ∃ line, parse ("k=\\\n#\\u00" ++ "\\\n" ++ " \t" ++ "e9\nx=\\u12") =
        .error ⟨line, .malformedUnit⟩ ∧ (line = 3 ∨ line = 4) := by
  have hlines : AreNaturalLines ("k=\\\n#\\u00" : String).toList
      (["k=\\".toList] ++ ["#\\u00".toList]) :=
    areNaturalLines_iff.mpr (by decide +kernel)
  have hfilled : ∃ c ∈ "#\\u00".toList, isSpace c = false := ⟨'#', by decide, by decide⟩
  have hcomment : ¬ IsComment ["k=\\".toList] "#\\u00".toList := by
    rintro ⟨hopen, -⟩
    revert hopen
    decide
  have heven : ¬ EndsOdd "#\\u00".toList := by decide
  have hblanks : ∀ c ∈ " \t".toList, isSpace c = true := List.all_eq_true.mp (by decide)
  have hone : ∀ c, "e9".toList.head? = some c → isSpace c = false := by
    intro c hc
    cases hc
    rfl
  have htwo : ∀ c, "e9\nx=\\u12".toList.head? = some c → isSpace c = false := by
    intro c hc
    cases hc
    rfl
  have hread : parse ("k=\\\n#\\u00" ++ "e9") = .ok [("k", "#é")] := by decide +kernel
  have hfails : parse ("k=\\\n#\\u00" ++ "e9\nx=\\u12") = .error ⟨3, .malformedUnit⟩ := by
    decide +kernel
  refine ⟨hread, ?_, ?_⟩
  · rcases parse_lineBreak hlines hfilled hcomment heven hblanks hone with
      ⟨entries, hwhole, hbroken⟩ | ⟨e, line, hwhole, -⟩
    · rw [hread] at hwhole
      cases hwhole
      exact hbroken
    · rw [hread] at hwhole
      cases hwhole
  · rcases parse_lineBreak hlines hfilled hcomment heven hblanks htwo with
      ⟨entries, hwhole, -⟩ | ⟨e, line, hwhole, hbroken, hline⟩
    · rw [hfails] at hwhole
      cases hwhole
    · rw [hfails] at hwhole
      cases hwhole
      exact ⟨line, hbroken, hline⟩

end Enrich.Properties
