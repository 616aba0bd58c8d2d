import Enrich.Proofs.Checked
import Enrich.Proofs.Loop
import Enrich.Proofs.Properties.BadEscape

/-!
# Escapes read by position

A raw key or value read with a cursor, which an escape moves on by two, six or twelve positions.
The cursor never leaves the text (`position_le_of_reaches`), each unit that is read has sixteen bits
(`readUnit_le`), the numbers of a pair stay in range (`combine_eq_ok`), and the text that comes out
is the one that `unescape` gives (`run_reading`).
-/

namespace Enrich.Properties.ByPosition

open Checked

/-- The largest value of the word that holds a unit. -/
def wordMax : Nat :=
  0xFFFFFFFF

/-- The value of some digits with one more digit behind them. -/
def addDigit (value : Nat) (digit : Char) : Except (Stop EscapeError) Nat :=
  match Text.hexDigit? digit with
  | none => .error (.refused .malformedUnit)
  | some d => do
    let shifted ← mul wordMax value 16
    add wordMax shifted d

/-- The unit whose four digits stand at a position. -/
def readUnit (limit : Nat) (raw : List Char) (start : Nat) : Except (Stop EscapeError) Nat := do
  let stop ← add limit start 4
  match slice? raw start stop with
  | none => .error (.refused .malformedUnit)
  | some digits => digits.foldlM addDigit 0

/-- The code point of a pair of surrogates. -/
def combine (high low : Nat) : Except (Stop EscapeError) Nat := do
  let front ← sub high 0xD800
  let shifted ← mul wordMax front 0x400
  let sum ← add wordMax 0x10000 shifted
  let back ← sub low 0xDC00
  add wordMax sum back

/-- The character with a code point. -/
def scalar (n : Nat) : Except (Stop EscapeError) Char :=
  match Text.scalar? n with
  | none => .error (.refused .unpairedSurrogate)
  | some c => .ok c

/-- The character of a pair whose first half stands before a position, and the position behind the
pair. -/
def decodePair (limit : Nat) (raw : List Char) (high position : Nat) :
    Except (Stop EscapeError) (Char × Nat) := do
  let start ← add limit position 2
  if slice? raw position start = some ['\\', 'u'] then
    let low ← readUnit limit raw start
    if Text.isLowSurrogate low then
      let next ← add limit position 6
      let combined ← combine high low
      let c ← scalar combined
      pure (c, next)
    else .error (.refused .unpairedSurrogate)
  else .error (.refused .unpairedSurrogate)

/-- The character of a unit that stands before a position, and the position behind all of it. -/
def decodeUnit (limit : Nat) (raw : List Char) (unit position : Nat) :
    Except (Stop EscapeError) (Char × Nat) :=
  if Text.isHighSurrogate unit then decodePair limit raw unit position
  else do
    let c ← scalar unit
    pure (c, position)

/-- How far a raw text is read, and the text that came out. -/
structure Cursor where
  position : Nat
  text : List Char

/-- One step behind a backslash that escapes a letter. -/
def letterRound (limit : Nat) (raw : List Char) (position : Nat) (text : List Char)
    (letter : Char) : Except (Stop EscapeError) (Round Cursor (List Char)) := do
  let next ← add limit position 1
  if letter = 'u' then
    let unit ← readUnit limit raw next
    let behind ← add limit next 4
    let decoded ← decodeUnit limit raw unit behind
    pure (.again ⟨decoded.2, text ++ [decoded.1]⟩)
  else pure (.again ⟨next, text ++ [escapedChar letter]⟩)

/-- One step behind a backslash. -/
def escapeRound (limit : Nat) (raw : List Char) (position : Nat) (text : List Char) :
    Except (Stop EscapeError) (Round Cursor (List Char)) :=
  match raw[position]? with
  | none => pure (.done text)
  | some letter => letterRound limit raw position text letter

/-- One step of the cursor. -/
def cursorRound (limit : Nat) (raw : List Char) (cursor : Cursor) :
    Except (Stop EscapeError) (Round Cursor (List Char)) :=
  if cursor.position < raw.length then do
    let c ← get raw cursor.position
    let next ← add limit cursor.position 1
    if c = '\\' then escapeRound limit raw next cursor.text
    else pure (.again ⟨next, cursor.text ++ [c]⟩)
  else pure (.done cursor.text)

variable {limit value unit high low position next start : Nat} {raw text rest behind : List Char}
  {c : Char} {cursor after : Cursor}

theorem decodePair_le (h : decodePair limit raw high position = .ok (c, next)) :
    position ≤ next := by
  obtain ⟨start, -, h⟩ := bind_eq_ok.mp h
  split at h
  · obtain ⟨low, -, h⟩ := bind_eq_ok.mp h
    split at h
    · obtain ⟨next', hnext, h⟩ := bind_eq_ok.mp h
      obtain ⟨-, rfl⟩ := add_eq_ok_iff.mp hnext
      obtain ⟨combined, -, h⟩ := bind_eq_ok.mp h
      obtain ⟨c', -, h⟩ := bind_eq_ok.mp h
      cases h
      omega
    · cases h
  · cases h

theorem decodeUnit_le (h : decodeUnit limit raw unit position = .ok (c, next)) :
    position ≤ next := by
  rw [decodeUnit] at h
  split at h
  · exact decodePair_le h
  · obtain ⟨c', -, h⟩ := bind_eq_ok.mp h
    cases h
    exact Nat.le_refl _

theorem letterRound_le (h : letterRound limit raw position text c = .ok (.again after)) :
    position ≤ after.position := by
  obtain ⟨next, hnext, h⟩ := bind_eq_ok.mp h
  obtain ⟨-, rfl⟩ := add_eq_ok_iff.mp hnext
  split at h
  · obtain ⟨unit, -, h⟩ := bind_eq_ok.mp h
    obtain ⟨behind, hbehind, h⟩ := bind_eq_ok.mp h
    obtain ⟨-, rfl⟩ := add_eq_ok_iff.mp hbehind
    obtain ⟨⟨c', last⟩, hlast, h⟩ := bind_eq_ok.mp h
    have hle := decodeUnit_le hlast
    cases h
    simp only
    omega
  · cases h
    exact Nat.le_succ _

theorem escapeRound_le (h : escapeRound limit raw position text = .ok (.again after)) :
    position ≤ after.position := by
  rw [escapeRound] at h
  split at h
  · cases h
  · exact letterRound_le h

theorem cursorRound_left (h : cursorRound limit raw cursor = .ok (.again after)) :
    raw.length - after.position < raw.length - cursor.position := by
  rw [cursorRound] at h
  split at h
  · next hin =>
    obtain ⟨c, -, h⟩ := bind_eq_ok.mp h
    obtain ⟨next, hnext, h⟩ := bind_eq_ok.mp h
    obtain ⟨-, rfl⟩ := add_eq_ok_iff.mp hnext
    split at h
    · have hle := escapeRound_le h
      omega
    · cases h
      simp only
      omega
  · cases h

/-- The loop that reads a raw key or value. -/
def reading (limit : Nat) (raw : List Char) : Loop (Stop EscapeError) Cursor (List Char) where
  round := cursorRound limit raw
  left cursor := raw.length - cursor.position
  decreases := cursorRound_left

/-! ## Units -/

theorem hexDigit?_cases (c : Char) : Text.isHexDigit c = false ∧ Text.hexDigit? c = none ∨
    Text.isHexDigit c = true ∧ Text.hexDigit? c = some (Text.hexValue c) := by
  rw [Text.isHexDigit, Text.hexValue]
  cases Text.hexDigit? c with
  | none => exact .inl ⟨rfl, rfl⟩
  | some d => exact .inr ⟨rfl, rfl⟩

theorem addDigit_of_isHexDigit (hc : Text.isHexDigit c = true)
    (hvalue : value * 16 + Text.hexValue c ≤ wordMax) :
    addDigit value c = .ok (value * 16 + Text.hexValue c) := by
  obtain ⟨hno, -⟩ | ⟨-, hsome⟩ := hexDigit?_cases c
  · rw [hno] at hc
    cases hc
  · simp only [addDigit, hsome]
    rw [mul_eq_ok (by omega), ok_bind, add_eq_ok hvalue]

theorem addDigit_of_not (hc : ¬ Text.isHexDigit c = true) :
    addDigit value c = .error (.refused .malformedUnit) := by
  obtain ⟨-, hnone⟩ | ⟨hyes, -⟩ := hexDigit?_cases c
  · simp only [addDigit, hnone]
  · exact absurd hyes hc

theorem le_foldl_digits (digits : List Char) (value : Nat) :
    value ≤ digits.foldl (fun n c => n * 16 + Text.hexValue c) value := by
  induction digits generalizing value with
  | nil => exact Nat.le_refl _
  | cons d digits ih =>
    have hle := ih (value * 16 + Text.hexValue d)
    rw [List.foldl_cons]
    omega

/-- Digits are read without leaving range if the number that they write does not leave it. -/
theorem foldlM_addDigit (digits : List Char)
    (hvalue : digits.foldl (fun n c => n * 16 + Text.hexValue c) value ≤ wordMax) :
    digits.foldlM addDigit value =
      if digits.all Text.isHexDigit then
        .ok (digits.foldl (fun n c => n * 16 + Text.hexValue c) value)
      else .error (.refused .malformedUnit) := by
  induction digits generalizing value with
  | nil => simp [pure, Except.pure]
  | cons d digits ih =>
    rw [List.foldl_cons] at hvalue
    have hfirst : value * 16 + Text.hexValue d ≤ wordMax :=
      Nat.le_trans (le_foldl_digits digits _) hvalue
    rw [List.foldlM_cons]
    by_cases hd : Text.isHexDigit d = true
    · rw [addDigit_of_isHexDigit hd hfirst, ok_bind, ih hvalue]
      simp [hd]
    · rw [addDigit_of_not hd, error_bind, if_neg]
      intro hall
      exact hd (List.all_eq_true.mp hall d List.mem_cons_self)

/-- Four digits are read as the unit that they write. -/
theorem foldlM_addDigit_unit {digits : List Char} (hfour : digits.length = 4) :
    digits.foldlM addDigit 0 =
      if digits.all Text.isHexDigit then .ok (Text.digitsValue 16 digits)
      else .error (.refused .malformedUnit) :=
  foldlM_addDigit digits (Nat.le_trans (Nat.le_of_lt (digitsValue_lt hfour)) (by decide))

theorem standsAt_behind_unit (h : StandsAt raw start text) (hunit : StartsWithUnit text unit rest) :
    StandsAt raw (start + 4) rest := by
  obtain ⟨digits, hdigits, rfl⟩ := hunit
  rw [← hdigits.length_eq]
  exact h.append

theorem readUnit_eq_ok (h : StandsAt raw start text) (hlimit : raw.length + 4 ≤ limit)
    (hunit : StartsWithUnit text unit rest) : readUnit limit raw start = .ok unit := by
  obtain ⟨digits, ⟨hfour, hhex, rfl⟩, rfl⟩ := hunit
  have hlength := h.length_eq
  have hslice : slice? raw start (start + 4) = some digits :=
    h.slice?_eq_some_iff.mpr ⟨hfour, rest, rfl⟩
  rw [readUnit, add_eq_ok (by omega), ok_bind, hslice]
  simp only
  rw [foldlM_addDigit_unit hfour, if_pos (List.all_eq_true.mpr hhex)]

theorem readUnit_eq_error (h : StandsAt raw start text) (hlimit : raw.length + 4 ≤ limit)
    (hno : ∀ unit rest, ¬ StartsWithUnit text unit rest) :
    readUnit limit raw start = .error (.refused .malformedUnit) := by
  have hlength := h.length_eq
  rw [readUnit, add_eq_ok (by omega), ok_bind]
  cases hslice : slice? raw start (start + 4) with
  | none => rfl
  | some digits =>
    obtain ⟨hfour, behind, rfl⟩ := h.slice?_eq_some_iff.mp hslice
    simp only
    rw [foldlM_addDigit_unit hfour, if_neg]
    intro hhex
    exact hno _ behind ⟨digits, ⟨hfour, List.all_eq_true.mp hhex, rfl⟩, rfl⟩

/-- **Every unit that is read has sixteen bits.** -/
theorem readUnit_le (h : readUnit limit raw start = .ok unit) : unit ≤ 0xFFFF := by
  obtain ⟨stop, hstop, h⟩ := bind_eq_ok.mp h
  obtain ⟨-, rfl⟩ := add_eq_ok_iff.mp hstop
  split at h
  · cases h
  · next digits hslice =>
    have hfour : digits.length = 4 := by
      rw [slice?_length hslice]
      omega
    rw [foldlM_addDigit_unit hfour, ite_error_eq_ok_iff] at h
    obtain ⟨-, rfl⟩ := h
    exact Nat.le_of_lt_succ (digitsValue_lt hfour)

/-! ## Pairs -/

/-- The numbers of a pair stay in range. -/
theorem combine_eq_ok (hhigh : Text.isHighSurrogate high = true)
    (hlow : Text.isLowSurrogate low = true) :
    combine high low = .ok (Text.combineSurrogates high low) := by
  simp only [Text.isHighSurrogate, Text.isLowSurrogate, Bool.and_eq_true, decide_eq_true_eq]
    at hhigh hlow
  have hshifted : (high - 0xD800) * 0x400 ≤ wordMax := by
    unfold wordMax
    omega
  have hsum : 0x10000 + (high - 0xD800) * 0x400 ≤ wordMax := by
    unfold wordMax
    omega
  have hcombined : 0x10000 + (high - 0xD800) * 0x400 + (low - 0xDC00) ≤ wordMax := by
    unfold wordMax
    omega
  rw [combine, sub_eq_ok hhigh.1, ok_bind, mul_eq_ok hshifted, ok_bind, add_eq_ok hsum, ok_bind,
    sub_eq_ok hlow.1, ok_bind]
  -- Unfolded on its own, as `rw` would try to close the goal by counting up to the literal.
  unfold Text.combineSurrogates
  exact add_eq_ok hcombined

theorem scalar_eq_ok {n : Nat} (h : Text.scalar? n = some c) : scalar n = .ok c := by
  simp only [scalar, h]

theorem scalar_eq_error {n : Nat} (h : Text.scalar? n = none) :
    scalar n = .error (.refused .unpairedSurrogate) := by
  simp only [scalar, h]

theorem slice?_escape (h : StandsAt raw position ('\\' :: 'u' :: text)) :
    slice? raw position (position + 2) = some ['\\', 'u'] :=
  h.slice?_eq_some_iff.mpr ⟨rfl, text, rfl⟩

theorem decodePair_escape (h : StandsAt raw position ('\\' :: 'u' :: text))
    (hlimit : raw.length + 4 ≤ limit) : decodePair limit raw high position =
      readUnit limit raw (position + 2) >>= fun low =>
        if Text.isLowSurrogate low then do
          let next ← add limit position 6
          let combined ← combine high low
          let c ← scalar combined
          pure (c, next)
        else .error (.refused .unpairedSurrogate) := by
  have hlength := h.length_eq
  rw [decodePair, add_eq_ok (by omega), ok_bind, if_pos (slice?_escape h)]

theorem decodePair_noEscape (h : StandsAt raw position behind) (hlimit : raw.length + 4 ≤ limit)
    (hbehind : ∀ rest, behind ≠ '\\' :: 'u' :: rest) :
    decodePair limit raw high position = .error (.refused .unpairedSurrogate) := by
  have hlength := h.length_eq
  rw [decodePair, add_eq_ok (by omega), ok_bind, if_neg]
  intro hslice
  obtain ⟨-, rest, hrest⟩ := h.slice?_eq_some_iff.mp hslice
  exact hbehind rest hrest

theorem decodePair_noDigits (h : StandsAt raw position ('\\' :: 'u' :: text))
    (hlimit : raw.length + 4 ≤ limit) (hno : ∀ unit rest, ¬ StartsWithUnit text unit rest) :
    decodePair limit raw high position = .error (.refused .malformedUnit) := by
  rw [decodePair_escape h hlimit, readUnit_eq_error h.cons.cons hlimit hno, error_bind]

theorem decodePair_notLow (h : StandsAt raw position ('\\' :: 'u' :: text))
    (hlimit : raw.length + 4 ≤ limit) (hunit : StartsWithUnit text unit rest)
    (hlow : Text.isLowSurrogate unit = false) :
    decodePair limit raw high position = .error (.refused .unpairedSurrogate) := by
  rw [decodePair_escape h hlimit, readUnit_eq_ok h.cons.cons hlimit hunit, ok_bind, if_neg]
  rw [hlow]
  exact Bool.false_ne_true

theorem decodePair_low (h : StandsAt raw position ('\\' :: 'u' :: text))
    (hlimit : raw.length + 4 ≤ limit) (hhigh : Text.isHighSurrogate high = true)
    (hunit : StartsWithUnit text low rest) (hlow : Text.isLowSurrogate low = true)
    (hchar : pairChar? high low = some c) :
    decodePair limit raw high position = .ok (c, position + 6) := by
  have hbehind := standsAt_behind_unit h.cons.cons hunit
  have hlength := hbehind.length_eq
  rw [pairChar?, if_pos hlow] at hchar
  rw [decodePair_escape h hlimit, readUnit_eq_ok h.cons.cons hlimit hunit, ok_bind, if_pos hlow,
    add_eq_ok (by omega), ok_bind, combine_eq_ok hhigh hlow, ok_bind, scalar_eq_ok hchar, ok_bind]
  rfl

/-! ## Decoding a unit -/

/-- Whether the result of decoding is right for a text that starts with the escape: the position is
behind what the character is made of, or the escape is one that cannot be read. -/
inductive Decodes (raw text : List Char) : Except (Stop EscapeError) (Char × Nat) → Prop
  | char {c : Char} {next : Nat} {rest : List Char} (hnext : StandsAt raw next rest)
      (hmeans : unescape text = (unescape rest).map (c :: ·)) : Decodes raw text (.ok (c, next))
  | refused {cause : EscapeError} (hmeans : unescape text = .error cause) :
      Decodes raw text (.error (.refused cause))

theorem decodes_pair (h : StandsAt raw position behind) (hlimit : raw.length + 4 ≤ limit)
    (hunit : StartsWithUnit text high behind) (hhigh : Text.isHighSurrogate high = true) :
    Decodes raw ('\\' :: 'u' :: text) (decodePair limit raw high position) := by
  by_cases hescape : ∃ second, behind = '\\' :: 'u' :: second
  · obtain ⟨second, rfl⟩ := hescape
    by_cases hunit' : ∃ low rest, StartsWithUnit second low rest
    · obtain ⟨low, rest, hunit'⟩ := hunit'
      cases hlow : Text.isLowSurrogate low with
      | false =>
        rw [decodePair_notLow h hlimit hunit' hlow]
        exact .refused (BadEscape.notLow hunit hhigh hunit' hlow).unescape_eq
      | true =>
        obtain ⟨c, hchar⟩ := exists_pairChar hhigh hlow
        have hmeans := unescape_pair hunit hhigh hunit'
        rw [hchar] at hmeans
        rw [decodePair_low h hlimit hhigh hunit' hlow hchar]
        exact .char (standsAt_behind_unit h.cons.cons hunit') hmeans
    · simp only [not_exists] at hunit'
      rw [decodePair_noDigits h hlimit hunit']
      exact .refused (BadEscape.noLowDigits hunit hhigh hunit').unescape_eq
  · simp only [not_exists] at hescape
    rw [decodePair_noEscape h hlimit hescape]
    exact .refused (BadEscape.noEscape hunit hhigh hescape).unescape_eq

theorem decodes_unit (h : StandsAt raw position behind) (hlimit : raw.length + 4 ≤ limit)
    (hunit : StartsWithUnit text unit behind) :
    Decodes raw ('\\' :: 'u' :: text) (decodeUnit limit raw unit position) := by
  rw [decodeUnit]
  split
  · next hhigh => exact decodes_pair h hlimit hunit hhigh
  · next hhigh =>
    have hmeans := unescape_unit hunit (Bool.eq_false_iff.mpr hhigh)
    cases hscalar : Text.scalar? unit with
    | none =>
      rw [scalar_eq_error hscalar, error_bind]
      rw [hscalar] at hmeans
      exact .refused hmeans
    | some c =>
      rw [scalar_eq_ok hscalar, ok_bind]
      rw [hscalar] at hmeans
      exact .char h hmeans

/-! ## What every state keeps -/

/-- What holds where the cursor stands before `rest`: what was read so far, and what the rest stands
for, make up what the whole text stands for. -/
structure IsBefore (raw rest : List Char) (cursor : Cursor) : Prop where
  standsAt : StandsAt raw cursor.position rest
  unescape_eq : unescape raw = (unescape rest).map (cursor.text ++ ·)

/-- What holds in every state: the cursor stands before some rest of the text. -/
def IsReading (raw : List Char) (cursor : Cursor) : Prop :=
  ∃ rest, IsBefore raw rest cursor

/-- Whether a result is what the text stands for. -/
def IsText (raw : List Char) (result : Except (Stop EscapeError) (List Char)) : Prop :=
  result = (unescape raw).mapError .refused

theorem IsBefore.again (h : IsBefore raw rest cursor) (hbehind : StandsAt raw next behind)
    (hmeans : unescape rest = (unescape behind).map (c :: ·)) :
    IsReading raw ⟨next, cursor.text ++ [c]⟩ := by
  refine ⟨behind, hbehind, ?_⟩
  rw [h.unescape_eq, hmeans]
  cases unescape behind with
  | error cause => rfl
  | ok text => simp [Except.map]

theorem IsBefore.done (h : IsBefore raw rest cursor) (hmeans : unescape rest = .ok []) :
    IsText raw (.ok cursor.text) := by
  rw [IsText, h.unescape_eq, hmeans]
  exact congrArg Except.ok (List.append_nil _).symm

theorem IsBefore.refused {cause : EscapeError} (h : IsBefore raw rest cursor)
    (hmeans : unescape rest = .error cause) : IsText raw (.error (.refused cause)) := by
  rw [IsText, h.unescape_eq, hmeans]
  rfl

/-! ## One step -/

theorem cursorRound_end (h : StandsAt raw cursor.position []) :
    cursorRound limit raw cursor = .ok (.done cursor.text) := by
  have hlength := h.length_eq
  rw [List.length_nil] at hlength
  exact if_neg (by omega)

theorem cursorRound_of_standsAt (h : StandsAt raw cursor.position (c :: rest))
    (hlimit : raw.length + 4 ≤ limit) : cursorRound limit raw cursor =
      if c = '\\' then escapeRound limit raw (cursor.position + 1) cursor.text
      else .ok (.again ⟨cursor.position + 1, cursor.text ++ [c]⟩) := by
  have hin := h.lt
  have hnext : cursor.position + 1 ≤ limit := by omega
  rw [cursorRound, if_pos hin, h.get_eq, ok_bind, add_eq_ok hnext, ok_bind]
  rfl

theorem escapeRound_end (h : StandsAt raw position []) :
    escapeRound limit raw position text = .ok (.done text) := by
  rw [escapeRound, h.getElem?_eq]
  rfl

theorem escapeRound_letter (h : StandsAt raw position (c :: rest)) (hlimit : raw.length + 4 ≤ limit)
    (hc : c ≠ 'u') : escapeRound limit raw position text =
      .ok (.again ⟨position + 1, text ++ [escapedChar c]⟩) := by
  have hin := h.lt
  have hnext : position + 1 ≤ limit := by omega
  rw [escapeRound, h.getElem?_eq]
  simp only [List.head?_cons]
  rw [letterRound, add_eq_ok hnext, ok_bind, if_neg hc]
  rfl

theorem escapeRound_unit (h : StandsAt raw position ('u' :: rest))
    (hlimit : raw.length + 4 ≤ limit) : escapeRound limit raw position text = (do
      let unit ← readUnit limit raw (position + 1)
      let behind ← add limit (position + 1) 4
      let decoded ← decodeUnit limit raw unit behind
      pure (.again ⟨decoded.2, text ++ [decoded.1]⟩)) := by
  have hin := h.lt
  have hnext : position + 1 ≤ limit := by omega
  rw [escapeRound, h.getElem?_eq]
  simp only [List.head?_cons]
  rw [letterRound, add_eq_ok hnext, ok_bind, if_pos rfl]

theorem leads_unit (hlimit : raw.length + 4 ≤ limit)
    (h : IsBefore raw ('\\' :: 'u' :: rest) cursor) :
    (reading limit raw).Leads (IsReading raw) (IsText raw) cursor := by
  have hround : cursorRound limit raw cursor = _ :=
    (cursorRound_of_standsAt h.standsAt hlimit).trans (if_pos rfl)
  rw [escapeRound_unit h.standsAt.cons hlimit] at hround
  have hdigits : StandsAt raw (cursor.position + 1 + 1) rest := h.standsAt.cons.cons
  -- The digits of the first unit come first; whether a second one follows is for `decodeUnit`.
  by_cases hunit : ∃ unit behind, StartsWithUnit rest unit behind
  · obtain ⟨unit, behind, hunit⟩ := hunit
    have hbehind := standsAt_behind_unit hdigits hunit
    have hlength := hbehind.length_eq
    have hfour : cursor.position + 1 + 1 + 4 ≤ limit := by omega
    rw [readUnit_eq_ok hdigits hlimit hunit, ok_bind, add_eq_ok hfour, ok_bind] at hround
    have hdecodes := decodes_unit hbehind hlimit hunit
    cases hdecoded : decodeUnit limit raw unit (cursor.position + 1 + 1 + 4) with
    | error stop =>
      rw [hdecoded] at hround hdecodes
      cases hdecodes with
      | refused hmeans => exact .stop hround (h.refused hmeans)
    | ok decoded =>
      rw [hdecoded] at hround hdecodes
      cases hdecodes with
      | char hnext hmeans => exact .again hround (h.again hnext hmeans)
  · simp only [not_exists] at hunit
    rw [readUnit_eq_error hdigits hlimit hunit, error_bind] at hround
    exact .stop hround (h.refused (BadEscape.noDigits hunit).unescape_eq)

theorem leads_backslash (hlimit : raw.length + 4 ≤ limit) (h : IsBefore raw ('\\' :: rest) cursor) :
    (reading limit raw).Leads (IsReading raw) (IsText raw) cursor := by
  have hround : cursorRound limit raw cursor = _ :=
    (cursorRound_of_standsAt h.standsAt hlimit).trans (if_pos rfl)
  match rest with
  | [] =>
    rw [escapeRound_end h.standsAt.cons] at hround
    refine .done hround (h.done ?_)
    rw [unescape, pieces_backslash]
    rfl
  | c :: rest =>
    by_cases hc : c = 'u'
    · subst hc
      exact leads_unit hlimit h
    · rw [escapeRound_letter h.standsAt.cons hlimit hc] at hround
      exact .again hround (h.again h.standsAt.cons.cons (unescape_escaped hc))

theorem keeps_reading (hlimit : raw.length + 4 ≤ limit) :
    (reading limit raw).Keeps (IsReading raw) (IsText raw) := by
  intro cursor ⟨rest, h⟩
  match rest with
  | [] => exact .done (cursorRound_end h.standsAt) (h.done rfl)
  | c :: rest =>
    by_cases hc : c = '\\'
    · subst hc
      exact leads_backslash hlimit h
    · have hround : cursorRound limit raw cursor = _ :=
        (cursorRound_of_standsAt h.standsAt hlimit).trans (if_neg hc)
      exact .again hround (h.again h.standsAt.cons (unescape_plain hc))

/-! ## All steps -/

theorem isReading_start (raw : List Char) : IsReading raw ⟨0, []⟩ := by
  refine ⟨raw, standsAt_zero raw, ?_⟩
  cases unescape raw with
  | error cause => rfl
  | ok text => rfl

/-- The cursor never leaves the text. -/
theorem position_le_of_reaches (hlimit : raw.length + 4 ≤ limit)
    (h : (reading limit raw).Reaches ⟨0, []⟩ cursor) : cursor.position ≤ raw.length := by
  obtain ⟨rest, hbefore⟩ := h.inv (keeps_reading hlimit) (isReading_start raw)
  exact (standsAt_iff.mp hbefore.standsAt).1

/-- The text that comes out is what the raw text stands for. -/
theorem run_reading (hlimit : raw.length + 4 ≤ limit) :
    (reading limit raw).run ⟨0, []⟩ = (unescape raw).mapError .refused :=
  (keeps_reading hlimit).post_run (isReading_start raw)

end Enrich.Properties.ByPosition
