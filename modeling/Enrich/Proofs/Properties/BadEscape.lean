import Enrich.Proofs.Properties.Escape

/-!
# Escapes that cannot be read

A raw key or value is read token by token: a plain character, a backslash and the character it
escapes, the escape of a unit, or those of a pair of surrogates. The text has no meaning if and only
if, behind some tokens, there stands an escape that is none of these, and then the first such escape
decides the error (`unescape_eq_error_iff`).
-/

namespace Enrich.Properties

/-! ## Units -/

/-- Whether four hexadecimal digits write a unit. -/
structure WritesUnit (digits : List Char) (unit : Nat) : Prop where
  length_eq : digits.length = 4
  isHexDigit : ∀ d ∈ digits, Text.isHexDigit d = true
  value_eq : Text.digitsValue 16 digits = unit

/-- Whether a text starts with the digits of a unit; the `rest` is what follows them. -/
def StartsWithUnit (text : List Char) (unit : Nat) (rest : List Char) : Prop :=
  ∃ digits, WritesUnit digits unit ∧ text = digits ++ rest

/-- Whether a unit is neither half of a pair, so that it is a character on its own. -/
def IsScalarUnit (unit : Nat) : Prop :=
  Text.isHighSurrogate unit = false ∧ Text.isLowSurrogate unit = false

/-! ## What is read and what is not -/

/-- Whether a piece of a raw text stands for one character. -/
inductive IsToken : List Char → Prop
  | plain {c} (hc : c ≠ '\\') : IsToken [c]
  | escaped {c} (hc : c ≠ 'u') : IsToken ['\\', c]
  | unit {digits unit} (hunit : WritesUnit digits unit) (hscalar : IsScalarUnit unit) :
      IsToken ('\\' :: 'u' :: digits)
  | pair {digits high digits' low} (hunit : WritesUnit digits high)
      (hhigh : Text.isHighSurrogate high = true) (hunit' : WritesUnit digits' low)
      (hlow : Text.isLowSurrogate low = true) :
      IsToken ('\\' :: 'u' :: (digits ++ '\\' :: 'u' :: digits'))

/-- Whether a raw text starts with an escape that cannot be read. Its own digits, or those of the
escape behind a high surrogate, may be missing; or it is a low surrogate, or a high one that is not
followed by an escape, or by the escape of a unit that is no low surrogate. -/
inductive BadEscape : List Char → EscapeError → Prop
  | noDigits {text} (hdigits : ∀ unit rest, ¬ StartsWithUnit text unit rest) :
      BadEscape ('\\' :: 'u' :: text) .malformedUnit
  | noLowDigits {text high behind} (hunit : StartsWithUnit text high ('\\' :: 'u' :: behind))
      (hhigh : Text.isHighSurrogate high = true)
      (hdigits : ∀ unit rest, ¬ StartsWithUnit behind unit rest) :
      BadEscape ('\\' :: 'u' :: text) .malformedUnit
  | low {text low rest} (hunit : StartsWithUnit text low rest)
      (hlow : Text.isLowSurrogate low = true) : BadEscape ('\\' :: 'u' :: text) .unpairedSurrogate
  | noEscape {text high behind} (hunit : StartsWithUnit text high behind)
      (hhigh : Text.isHighSurrogate high = true)
      (hbehind : ∀ rest, behind ≠ '\\' :: 'u' :: rest) :
      BadEscape ('\\' :: 'u' :: text) .unpairedSurrogate
  | notLow {text high behind unit rest}
      (hunit : StartsWithUnit text high ('\\' :: 'u' :: behind))
      (hhigh : Text.isHighSurrogate high = true) (hunit' : StartsWithUnit behind unit rest)
      (hlow : Text.isLowSurrogate unit = false) :
      BadEscape ('\\' :: 'u' :: text) .unpairedSurrogate

/-- Whether a raw text, read from the left, comes to an escape that cannot be read. -/
def FirstBadEscape (raw : List Char) (cause : EscapeError) : Prop :=
  ∃ (tokens : List (List Char)) (rest : List Char), raw = tokens.flatten ++ rest ∧
    (∀ token ∈ tokens, IsToken token) ∧ BadEscape rest cause

variable {text rest raw token behind : List Char} {unit high low : Nat} {c d : Char}
  {cause : EscapeError}

/-! ## Digits and their values -/

theorem writesUnit_iff {a b c d : Char} :
    WritesUnit [a, b, c, d] unit ↔ Text.unit? a b c d = some unit := by
  rw [Text.unit?]
  constructor
  · rintro ⟨-, hdigits, rfl⟩
    rw [if_pos]
    simpa [and_assoc] using hdigits
  · intro h
    split at h
    · next hdigits =>
      refine ⟨rfl, ?_, Option.some.inj h⟩
      simpa [and_assoc] using hdigits
    · cases h

theorem startsWithUnit_iff {a b c d : Char} {behind : List Char} :
    StartsWithUnit (a :: b :: c :: d :: behind) unit rest ↔
      Text.unit? a b c d = some unit ∧ rest = behind := by
  rw [← writesUnit_iff]
  constructor
  · rintro ⟨digits, hunit, htext⟩
    have hparts : [a, b, c, d] ++ behind = digits ++ rest := htext
    obtain ⟨rfl, rfl⟩ := List.append_inj hparts hunit.length_eq.symm
    exact ⟨hunit, rfl⟩
  · rintro ⟨hunit, rfl⟩
    exact ⟨_, hunit, rfl⟩

theorem StartsWithUnit.exists_chars (h : StartsWithUnit text unit rest) :
    ∃ a b c d, text = a :: b :: c :: d :: rest ∧ Text.unit? a b c d = some unit := by
  obtain ⟨digits, hunit, rfl⟩ := h
  match digits, hunit.length_eq with
  | [a, b, c, d], _ => exact ⟨a, b, c, d, rfl, writesUnit_iff.mp hunit⟩

theorem toNat_sub_le {lo hi : Char} (h : (lo ≤ c && c ≤ hi) = true) :
    c.toNat - lo.toNat ≤ hi.toNat - lo.toNat := by
  rw [Bool.and_eq_true, decide_eq_true_eq, decide_eq_true_eq] at h
  exact Nat.sub_le_sub_right (UInt32.le_iff_toNat_le.mp (Char.le_def.mp h.2)) _

theorem hexValue_lt (c : Char) : Text.hexValue c < 16 := by
  unfold Text.hexValue Text.hexDigit?
  split
  · next h => exact Nat.lt_of_le_of_lt (toNat_sub_le h) (by decide)
  · split
    · next h => exact Nat.lt_of_le_of_lt (Nat.add_le_add_right (toNat_sub_le h) 10) (by decide)
    · split
      · next h => exact Nat.lt_of_le_of_lt (Nat.add_le_add_right (toNat_sub_le h) 10) (by decide)
      · decide

theorem digitsValue_lt {digits : List Char} (hfour : digits.length = 4) :
    Text.digitsValue 16 digits < 0x10000 := by
  match digits, hfour with
  | [a, b, c, d], _ =>
    have ha := hexValue_lt a
    have hb := hexValue_lt b
    have hc := hexValue_lt c
    have hd := hexValue_lt d
    simp only [Text.digitsValue, List.foldl_cons, List.foldl_nil]
    omega

theorem StartsWithUnit.unit_lt (h : StartsWithUnit text unit rest) : unit < 0x10000 := by
  obtain ⟨digits, ⟨hfour, -, rfl⟩, -⟩ := h
  exact digitsValue_lt hfour

theorem exists_scalar_of_isScalarUnit (hlt : unit < 0x10000) (hscalar : IsScalarUnit unit) :
    ∃ c, Text.scalar? unit = some c := by
  obtain ⟨hhigh, hlow⟩ := hscalar
  simp only [Text.isHighSurrogate, Text.isLowSurrogate, Bool.and_eq_false_imp, decide_eq_true_eq,
    decide_eq_false_iff_not] at hhigh hlow
  have hvalid : unit.isValidChar := by
    unfold Nat.isValidChar
    omega
  exact ⟨_, dif_pos hvalid⟩

theorem scalar?_eq_none_of_isLowSurrogate (hlow : Text.isLowSurrogate low = true) :
    Text.scalar? low = none := by
  simp only [Text.isLowSurrogate, Bool.and_eq_true, decide_eq_true_eq] at hlow
  have hvalid : ¬ low.isValidChar := by
    unfold Nat.isValidChar
    omega
  exact dif_neg hvalid

theorem isHighSurrogate_eq_false (hlow : Text.isLowSurrogate low = true) :
    Text.isHighSurrogate low = false := by
  simp only [Text.isLowSurrogate, Bool.and_eq_true, decide_eq_true_eq] at hlow
  simp only [Text.isHighSurrogate, Bool.and_eq_false_imp, decide_eq_true_eq,
    decide_eq_false_iff_not]
  omega

/-- Two surrogates that belong together always make a character. -/
theorem exists_pairChar (hhigh : Text.isHighSurrogate high = true)
    (hlow : Text.isLowSurrogate low = true) : ∃ c, pairChar? high low = some c := by
  rw [pairChar?, if_pos hlow]
  simp only [Text.isHighSurrogate, Text.isLowSurrogate, Bool.and_eq_true, decide_eq_true_eq]
    at hhigh hlow
  have hvalid : (Text.combineSurrogates high low).isValidChar := by
    unfold Nat.isValidChar Text.combineSurrogates
    omega
  exact ⟨_, dif_pos hvalid⟩

/-! ## Pieces -/

theorem pieces_unit (h : StartsWithUnit text unit rest) :
    pieces ('\\' :: 'u' :: text) = .unit unit :: pieces rest := by
  obtain ⟨a, b, c, d, rfl, hunit⟩ := h.exists_chars
  rw [pieces.eq_def]
  simp [hunit]

theorem pieces_malformed (h : ∀ unit rest, ¬ StartsWithUnit text unit rest) :
    pieces ('\\' :: 'u' :: text) = [.malformed] := by
  rw [pieces.eq_def]
  simp only [ne_eq, not_true_eq_false, if_false]
  split
  · next a b c d rest =>
    cases hunit : Text.unit? a b c d with
    | none => rfl
    | some unit => exact absurd (startsWithUnit_iff.mpr ⟨hunit, rfl⟩) (h unit rest)
  · rfl

theorem pieces_backslash : pieces ['\\'] = [] := by
  rw [pieces.eq_def]
  rfl

/-- Only an escape of a unit gives a unit or a malformed piece. -/
theorem pieces_cases (h : ∀ rest, text ≠ '\\' :: 'u' :: rest) :
    pieces text = [] ∨ ∃ c rest, pieces text = .char c :: rest := by
  match text with
  | [] => exact .inl rfl
  | c :: text =>
    by_cases hc : c = '\\'
    · subst hc
      match text with
      | [] => exact .inl pieces_backslash
      | d :: text =>
        have hd : d ≠ 'u' := fun hd => h text (by rw [hd])
        exact .inr ⟨_, _, pieces_escaped hd⟩
    · exact .inr ⟨_, _, pieces_plain hc⟩

theorem joinPieces_unit (rest : List Piece) (hhigh : Text.isHighSurrogate unit = false) :
    joinPieces (.unit unit :: rest) = consChar (Text.scalar? unit) (joinPieces rest) := by
  rw [joinPieces.eq_def]
  simp only [hhigh, Bool.false_eq_true, if_false]

theorem joinPieces_pair (rest : List Piece) (hhigh : Text.isHighSurrogate high = true) :
    joinPieces (.unit high :: .unit low :: rest) =
      consChar (pairChar? high low) (joinPieces rest) := by
  rw [joinPieces]
  simp only [hhigh, if_true]

/-! ## Tokens -/

theorem unescape_plain (hc : c ≠ '\\') :
    unescape (c :: rest) = (unescape rest).map (c :: ·) := by
  rw [unescape, pieces_plain hc, joinPieces]
  rfl

theorem unescape_escaped (hc : c ≠ 'u') :
    unescape ('\\' :: c :: rest) = (unescape rest).map (escapedChar c :: ·) := by
  rw [unescape, pieces_escaped hc, joinPieces]
  rfl

theorem unescape_unit (h : StartsWithUnit text unit rest)
    (hhigh : Text.isHighSurrogate unit = false) :
    unescape ('\\' :: 'u' :: text) = consChar (Text.scalar? unit) (unescape rest) := by
  rw [unescape, pieces_unit h, joinPieces_unit _ hhigh, unescape]

theorem unescape_pair (h : StartsWithUnit text high ('\\' :: 'u' :: behind))
    (hhigh : Text.isHighSurrogate high = true) (h' : StartsWithUnit behind unit rest) :
    unescape ('\\' :: 'u' :: text) = consChar (pairChar? high unit) (unescape rest) := by
  rw [unescape, pieces_unit h, pieces_unit h', joinPieces_pair _ hhigh, unescape]

/-- A token adds one character to whatever follows it. -/
theorem IsToken.exists_unescape (h : IsToken token) :
    ∃ c, ∀ rest, unescape (token ++ rest) = (unescape rest).map (c :: ·) := by
  cases h with
  | plain hc => exact ⟨_, fun rest => unescape_plain hc⟩
  | escaped hc => exact ⟨_, fun rest => unescape_escaped hc⟩
  | @unit digits unit hunit hscalar =>
    have hstarts : StartsWithUnit (digits ++ []) unit [] := ⟨digits, hunit, rfl⟩
    obtain ⟨c, hc⟩ := exists_scalar_of_isScalarUnit hstarts.unit_lt hscalar
    refine ⟨c, fun rest => ?_⟩
    rw [List.cons_append, List.cons_append, unescape_unit ⟨digits, hunit, rfl⟩ hscalar.1, hc]
    rfl
  | @pair digits high digits' low hunit hhigh hunit' hlow =>
    obtain ⟨c, hc⟩ := exists_pairChar hhigh hlow
    refine ⟨c, fun rest => ?_⟩
    rw [List.cons_append, List.cons_append, List.append_assoc, List.cons_append, List.cons_append,
      unescape_pair ⟨digits, hunit, rfl⟩ hhigh ⟨digits', hunit', rfl⟩, hc]
    rfl

theorem BadEscape.unescape_eq (h : BadEscape text cause) : unescape text = .error cause := by
  cases h with
  | noDigits hdigits =>
    rw [unescape, pieces_malformed hdigits]
    rfl
  | noLowDigits hunit hhigh hdigits =>
    rw [unescape, pieces_unit hunit, pieces_malformed hdigits, joinPieces]
    simp only [hhigh, if_true]
  | low hunit hlow =>
    rw [unescape_unit hunit (isHighSurrogate_eq_false hlow), scalar?_eq_none_of_isLowSurrogate hlow]
    rfl
  | noEscape hunit hhigh hbehind =>
    rw [unescape, pieces_unit hunit]
    rcases pieces_cases hbehind with hnil | ⟨c, rest, hchar⟩
    · rw [hnil, joinPieces.eq_def]
      simp only [hhigh, if_true]
    · rw [hchar, joinPieces.eq_def]
      simp only [hhigh, if_true]
  | notLow hunit hhigh hunit' hlow =>
    rw [unescape_pair hunit hhigh hunit', pairChar?, hlow]
    rfl

/-! ## The first bad escape -/

theorem FirstBadEscape.unescape_eq (h : FirstBadEscape raw cause) :
    unescape raw = .error cause := by
  obtain ⟨tokens, rest, rfl, htokens, hbad⟩ := h
  induction tokens with
  | nil => exact hbad.unescape_eq
  | cons token tokens ih =>
    obtain ⟨htoken, htokens⟩ := List.forall_mem_cons.mp htokens
    obtain ⟨c, hc⟩ := htoken.exists_unescape
    rw [List.flatten_cons, List.append_assoc, hc, ih htokens]
    rfl

/-- Whether a raw text is read, or comes to a first escape that cannot be read. -/
def Settled (raw : List Char) : Prop :=
  (∃ text, unescape raw = .ok text) ∨ ∃ cause, FirstBadEscape raw cause

theorem Settled.append (hrest : Settled rest) (htoken : IsToken token) :
    Settled (token ++ rest) := by
  rcases hrest with ⟨text, htext⟩ | ⟨cause, tokens, bad, rfl, htokens, hbad⟩
  · obtain ⟨c, hc⟩ := htoken.exists_unescape
    exact .inl ⟨c :: text, by rw [hc, htext]; rfl⟩
  · exact .inr ⟨cause, token :: tokens, bad, by rw [List.flatten_cons, List.append_assoc],
      List.forall_mem_cons.mpr ⟨htoken, htokens⟩, hbad⟩

theorem settled_of_badEscape (h : BadEscape raw cause) : Settled raw :=
  .inr ⟨cause, [], raw, rfl, List.forall_mem_nil _, h⟩

/-- An escape of a unit, if what follows its token is settled. -/
theorem settled_unit (text : List Char)
    (ih : ∀ rest : List Char, rest.length < text.length → Settled rest) :
    Settled ('\\' :: 'u' :: text) := by
  by_cases hunit : ∃ unit rest, StartsWithUnit text unit rest
  · obtain ⟨unit, behind, hunit⟩ := hunit
    obtain ⟨digits, hdigits, rfl⟩ := id hunit
    cases hhigh : Text.isHighSurrogate unit with
    | false =>
      cases hlow : Text.isLowSurrogate unit with
      | false =>
        have hshorter : behind.length < (digits ++ behind).length := by
          rw [List.length_append, hdigits.length_eq]
          omega
        exact (ih behind hshorter).append (.unit hdigits ⟨hhigh, hlow⟩)
      | true => exact settled_of_badEscape (.low hunit hlow)
    | true =>
      by_cases hescape : ∃ rest, behind = '\\' :: 'u' :: rest
      · obtain ⟨rest, rfl⟩ := hescape
        by_cases hunit' : ∃ unit rest', StartsWithUnit rest unit rest'
        · obtain ⟨low, rest', hunit'⟩ := hunit'
          obtain ⟨digits', hdigits', rfl⟩ := id hunit'
          cases hlow : Text.isLowSurrogate low with
          | false => exact settled_of_badEscape (.notLow hunit hhigh hunit' hlow)
          | true =>
            have hshorter : rest'.length <
                (digits ++ '\\' :: 'u' :: (digits' ++ rest')).length := by
              simp only [List.length_append, List.length_cons]
              omega
            have hpair := (ih rest' hshorter).append (.pair hdigits hhigh hdigits' hlow)
            simpa only [List.cons_append, List.append_assoc] using hpair
        · simp only [not_exists] at hunit'
          exact settled_of_badEscape (.noLowDigits hunit hhigh hunit')
      · simp only [not_exists] at hescape
        exact settled_of_badEscape (.noEscape hunit hhigh hescape)
  · simp only [not_exists] at hunit
    exact settled_of_badEscape (.noDigits hunit)

theorem settled (raw : List Char) : Settled raw := by
  induction hlength : raw.length using Nat.strongRecOn generalizing raw with
  | ind n ih =>
    subst hlength
    match raw with
    | [] => exact .inl ⟨[], rfl⟩
    | c :: rest =>
      by_cases hc : c = '\\'
      · subst hc
        match rest with
        | [] => exact .inl ⟨[], by rw [unescape, pieces_backslash]; rfl⟩
        | d :: rest =>
          by_cases hd : d = 'u'
          · subst hd
            refine settled_unit rest fun shorter hshorter => ih _ ?_ shorter rfl
            simp only [List.length_cons]
            omega
          · refine (ih rest.length ?_ rest rfl).append (.escaped hd)
            simp only [List.length_cons]
            omega
      · exact (ih rest.length (Nat.lt_succ_self _) rest rfl).append (.plain hc)

end Enrich.Properties
