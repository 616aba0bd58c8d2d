import Enrich.Proofs.Checked
import Enrich.Proofs.Loop
import Enrich.Proofs.Properties.Parts

/-!
# Bounds of an entry

The parts of a logical line found by position: one loop moves the end of the key and the start of
the value forward and the end of the value back. Its bounds stay in order in every state
(`areOrdered_of_reaches`), and what lies between them in the end are the key and the value
(`foundBounds_run`).
-/

namespace Enrich.Properties.ByPosition

open Checked

/-- Where the key ends, and where the value starts and ends. -/
structure Bounds where
  keyEnd : Nat
  valueStart : Nat
  valueEnd : Nat

/-- Whether bounds are in order and in the line. -/
structure Bounds.AreOrdered (bounds : Bounds) (line : List Char) : Prop where
  key_le : bounds.keyEnd ≤ bounds.valueStart
  value_le : bounds.valueStart ≤ bounds.valueEnd
  le_length : bounds.valueEnd ≤ line.length

/-- What is known of the bounds: the scan is in the key, or behind it, or comes back from the end of
the line to the value. -/
inductive Scan where
  | key (keyEnd : Nat) (escaped : Bool)
  | gap (keyEnd valueStart : Nat) (seen : Bool)
  | tail (bounds : Bounds)

/-- The bounds of a scan; those that are not found yet are the end of the line. -/
def Scan.bounds (line : List Char) : Scan → Bounds
  | .key keyEnd _ => ⟨keyEnd, line.length, line.length⟩
  | .gap keyEnd valueStart _ => ⟨keyEnd, valueStart, line.length⟩
  | .tail bounds => bounds

/-- One step through the key. -/
def keyRound (limit : Nat) (line : List Char) (keyEnd : Nat) (escaped : Bool) :
    Except (Stop EscapeError) (Round Scan Bounds) :=
  if keyEnd < line.length then do
    let c ← get line keyEnd
    let next ← add limit keyEnd 1
    if isSeparator c && !escaped then pure (.again (.gap keyEnd next true))
    else if isSpace c && !escaped then pure (.again (.gap keyEnd next false))
    else pure (.again (.key next (c == '\\' && !escaped)))
  else pure (.again (.gap keyEnd line.length false))

/-- One step between key and value. -/
def gapRound (limit : Nat) (line : List Char) (keyEnd valueStart : Nat) (seen : Bool) :
    Except (Stop EscapeError) (Round Scan Bounds) :=
  if valueStart < line.length then do
    let c ← get line valueStart
    if !isSpace c && (seen || !isSeparator c) then
      pure (.again (.tail ⟨keyEnd, valueStart, line.length⟩))
    else
      let next ← add limit valueStart 1
      pure (.again (.gap keyEnd next (seen || !isSpace c)))
  else pure (.again (.tail ⟨keyEnd, valueStart, line.length⟩))

/-- One step back from the end of the value. -/
def tailRound (line : List Char) (bounds : Bounds) :
    Except (Stop EscapeError) (Round Scan Bounds) :=
  if bounds.valueStart < bounds.valueEnd then do
    let last ← sub bounds.valueEnd 1
    let c ← get line last
    if isSpace c then
      let before ← slice line bounds.valueStart last
      if isOpen before.reverse then pure (.done bounds)
      else pure (.again (.tail { bounds with valueEnd := last }))
    else pure (.done bounds)
  else pure (.done bounds)

/-- One step of the scan. -/
def scanRound (limit : Nat) (line : List Char) :
    Scan → Except (Stop EscapeError) (Round Scan Bounds)
  | .key keyEnd escaped => keyRound limit line keyEnd escaped
  | .gap keyEnd valueStart seen => gapRound limit line keyEnd valueStart seen
  | .tail bounds => tailRound line bounds

/-- What a scan has before it: the rest of the key, of the gap and of the value, in this order. -/
def Scan.left (line : List Char) : Scan → Nat
  | .key keyEnd _ => 2 * (line.length + 1) + (line.length - keyEnd)
  | .gap _ valueStart _ => (line.length + 1) + (line.length - valueStart)
  | .tail bounds => bounds.valueEnd

variable {limit keyEnd valueStart : Nat} {line rest : List Char} {c : Char} {escaped seen : Bool}
  {bounds : Bounds} {scan next : Scan}

theorem keyRound_left
    (h : keyRound limit line keyEnd escaped = .ok (.again next)) :
    next.left line < (Scan.key keyEnd escaped).left line := by
  rw [keyRound] at h
  split at h
  · next hin =>
    obtain ⟨c, -, h⟩ := bind_eq_ok.mp h
    obtain ⟨n, hn, h⟩ := bind_eq_ok.mp h
    obtain ⟨-, rfl⟩ := add_eq_ok_iff.mp hn
    split at h
    · cases h
      simp only [Scan.left]
      omega
    · split at h
      · cases h
        simp only [Scan.left]
        omega
      · cases h
        simp only [Scan.left]
        omega
  · cases h
    simp only [Scan.left]
    omega

theorem gapRound_left
    (h : gapRound limit line keyEnd valueStart seen = .ok (.again next)) :
    next.left line < (Scan.gap keyEnd valueStart seen).left line := by
  rw [gapRound] at h
  split at h
  · next hin =>
    obtain ⟨c, -, h⟩ := bind_eq_ok.mp h
    split at h
    · cases h
      simp only [Scan.left]
      omega
    · obtain ⟨n, hn, h⟩ := bind_eq_ok.mp h
      obtain ⟨-, rfl⟩ := add_eq_ok_iff.mp hn
      cases h
      simp only [Scan.left]
      omega
  · cases h
    simp only [Scan.left]
    omega

theorem tailRound_left (h : tailRound line bounds = .ok (.again next)) :
    next.left line < (Scan.tail bounds).left line := by
  rw [tailRound] at h
  split at h
  · next hin =>
    obtain ⟨last, hlast, h⟩ := bind_eq_ok.mp h
    obtain ⟨-, rfl⟩ := sub_eq_ok_iff.mp hlast
    obtain ⟨c, -, h⟩ := bind_eq_ok.mp h
    split at h
    · obtain ⟨before, -, h⟩ := bind_eq_ok.mp h
      split at h
      · cases h
      · cases h
        simp only [Scan.left]
        omega
    · cases h
  · cases h

/-- The loop that finds the bounds of an entry. -/
def splitting (limit : Nat) (line : List Char) : Loop (Stop EscapeError) Scan Bounds where
  round := scanRound limit line
  left := Scan.left line
  decreases {scan _} h := by
    cases scan with
    | key keyEnd escaped => exact keyRound_left h
    | gap keyEnd valueStart seen => exact gapRound_left h
    | tail bounds => exact tailRound_left h

/-! ## What every state keeps -/

/-- The key and the value that a scan will come to. -/
def Scan.parts (line : List Char) : Scan → List Char × List Char
  | .key keyEnd escaped =>
    let found := splitKey escaped (line.drop keyEnd)
    (line.take keyEnd ++ found.1, trimEnd (dropSeparator false found.2))
  | .gap keyEnd valueStart seen =>
    (line.take keyEnd, trimEnd (dropSeparator seen (line.drop valueStart)))
  | .tail bounds =>
    (line.take bounds.keyEnd, trimEnd ((line.take bounds.valueEnd).drop bounds.valueStart))

/-- What holds in every state of a scan: the bounds are in order, and the parts are those of the
line. -/
structure Scan.IsSound (line : List Char) (scan : Scan) : Prop where
  areOrdered : (scan.bounds line).AreOrdered line
  parts_eq : scan.parts line = splitEntry line

/-- Whether a scan ended with the bounds of the parts of the line. -/
def FoundBounds (line : List Char) (result : Except (Stop EscapeError) Bounds) : Prop :=
  ∃ bounds, result = .ok bounds ∧ bounds.AreOrdered line ∧
    (line.take bounds.keyEnd, (line.take bounds.valueEnd).drop bounds.valueStart) = splitEntry line

theorem parts_start (line : List Char) : (Scan.key 0 false).parts line = splitEntry line := by
  simp [Scan.parts, splitEntry]

theorem parts_key_end (escaped : Bool) : (Scan.key line.length escaped).parts line =
    (Scan.gap line.length line.length false).parts line := by
  simp [Scan.parts, splitKey]

theorem parts_key_separator (h : StandsAt line keyEnd (c :: rest)) (hc : isSeparator c = true) :
    (Scan.key keyEnd false).parts line = (Scan.gap keyEnd (keyEnd + 1) true).parts line := by
  have hspace : isSpace c = false := by
    cases hspace : isSpace c with
    | false => rfl
    | true =>
      rw [isSeparator_eq_false hspace] at hc
      cases hc
  simp [Scan.parts, h.drop_eq, h.cons.drop_eq, splitKey, dropSeparator, hc, hspace]

theorem parts_key_space (h : StandsAt line keyEnd (c :: rest)) (hc : isSpace c = true) :
    (Scan.key keyEnd false).parts line = (Scan.gap keyEnd (keyEnd + 1) false).parts line := by
  simp [Scan.parts, h.drop_eq, h.cons.drop_eq, splitKey, dropSeparator, hc]

theorem parts_key_next (h : StandsAt line keyEnd (c :: rest))
    (hc : ¬ (!escaped && (isSeparator c || isSpace c)) = true) :
    (Scan.key keyEnd escaped).parts line =
      (Scan.key (keyEnd + 1) (c == '\\' && !escaped)).parts line := by
  simp only [Scan.parts, h.drop_eq, h.cons.drop_eq, h.take_succ, splitKey, if_neg hc,
    List.append_assoc, List.singleton_append]

theorem parts_gap_end (keyEnd : Nat) (seen : Bool) :
    (Scan.gap keyEnd line.length seen).parts line =
      (Scan.tail ⟨keyEnd, line.length, line.length⟩).parts line := by
  simp [Scan.parts, dropSeparator]

theorem parts_gap_stop (h : StandsAt line valueStart (c :: rest))
    (hc : (!isSpace c && (seen || !isSeparator c)) = true) :
    (Scan.gap keyEnd valueStart seen).parts line =
      (Scan.tail ⟨keyEnd, valueStart, line.length⟩).parts line := by
  simp only [Bool.and_eq_true, Bool.or_eq_true, Bool.not_eq_true'] at hc
  obtain ⟨hspace, hseen | hseparator⟩ := hc
  · simp [Scan.parts, h.drop_eq, dropSeparator, hspace, hseen]
  · simp [Scan.parts, h.drop_eq, dropSeparator, hspace, hseparator]

theorem parts_gap_next (h : StandsAt line valueStart (c :: rest))
    (hc : ¬ (!isSpace c && (seen || !isSeparator c)) = true) :
    (Scan.gap keyEnd valueStart seen).parts line =
      (Scan.gap keyEnd (valueStart + 1) (seen || !isSpace c)).parts line := by
  cases hspace : isSpace c with
  | true => simp [Scan.parts, h.drop_eq, h.cons.drop_eq, dropSeparator, hspace]
  | false =>
    simp only [hspace, Bool.not_false, Bool.true_and, Bool.or_eq_true, not_or,
      Bool.not_eq_true', Bool.not_eq_false, Bool.not_eq_true] at hc
    simp [Scan.parts, h.drop_eq, h.cons.drop_eq, dropSeparator, hspace, hc]

theorem trimEnd_concat (front : List Char) (c : Char) :
    trimEnd (front ++ [c]) =
      if isSpace c = true ∧ ¬ EndsOdd front then trimEnd front else front ++ [c] := by
  rw [trimEnd, List.reverse_concat, trimReversed_cons]
  split
  · rfl
  · simp

theorem slice_succ {last : Nat} (h : StandsAt line last (c :: rest)) (hle : valueStart ≤ last) :
    (line.take (last + 1)).drop valueStart = (line.take last).drop valueStart ++ [c] := by
  have hlength := h.length_eq
  rw [h.take_succ, List.drop_append_of_le_length]
  rw [List.length_take]
  omega

/-! ## One step -/

theorem isSound_key (hle : keyEnd ≤ line.length)
    (hparts : (Scan.key keyEnd escaped).parts line = splitEntry line) :
    (Scan.key keyEnd escaped).IsSound line :=
  ⟨⟨hle, Nat.le_refl _, Nat.le_refl _⟩, hparts⟩

theorem isSound_gap (hkey : keyEnd ≤ valueStart) (hle : valueStart ≤ line.length)
    (hparts : (Scan.gap keyEnd valueStart seen).parts line = splitEntry line) :
    (Scan.gap keyEnd valueStart seen).IsSound line :=
  ⟨⟨hkey, hle, Nat.le_refl _⟩, hparts⟩

theorem leads_key (hlimit : line.length ≤ limit) (h : (Scan.key keyEnd escaped).IsSound line) :
    (splitting limit line).Leads (Scan.IsSound line) (FoundBounds line) (.key keyEnd escaped) := by
  obtain ⟨⟨hle, -, -⟩, hparts⟩ := h
  simp only [Scan.bounds] at hle
  by_cases hin : keyEnd < line.length
  · obtain ⟨c, rest, hc⟩ := exists_standsAt_cons hin
    have hnext : keyEnd + 1 ≤ limit := by omega
    have hround : keyRound limit line keyEnd escaped =
        if isSeparator c && !escaped then .ok (.again (.gap keyEnd (keyEnd + 1) true))
        else if isSpace c && !escaped then .ok (.again (.gap keyEnd (keyEnd + 1) false))
        else .ok (.again (.key (keyEnd + 1) (c == '\\' && !escaped))) := by
      rw [keyRound, if_pos hin, hc.get_eq, ok_bind, add_eq_ok hnext, ok_bind]
      rfl
    by_cases hseparator : (isSeparator c && !escaped) = true
    · rw [if_pos hseparator] at hround
      simp only [Bool.and_eq_true, Bool.not_eq_true'] at hseparator
      obtain ⟨hseparator, rfl⟩ := hseparator
      rw [parts_key_separator hc hseparator] at hparts
      exact .again hround (isSound_gap (Nat.le_succ _) hin hparts)
    · rw [if_neg hseparator] at hround
      by_cases hspace : (isSpace c && !escaped) = true
      · rw [if_pos hspace] at hround
        simp only [Bool.and_eq_true, Bool.not_eq_true'] at hspace
        obtain ⟨hspace, rfl⟩ := hspace
        rw [parts_key_space hc hspace] at hparts
        exact .again hround (isSound_gap (Nat.le_succ _) hin hparts)
      · rw [if_neg hspace] at hround
        rw [parts_key_next hc (by grind)] at hparts
        exact .again hround (isSound_key hin hparts)
  · have heq : keyEnd = line.length := by omega
    subst heq
    rw [parts_key_end] at hparts
    exact .again (if_neg hin) (isSound_gap (Nat.le_refl _) (Nat.le_refl _) hparts)

theorem leads_gap (hlimit : line.length ≤ limit)
    (h : (Scan.gap keyEnd valueStart seen).IsSound line) :
    (splitting limit line).Leads (Scan.IsSound line) (FoundBounds line)
      (.gap keyEnd valueStart seen) := by
  obtain ⟨⟨hkey, hle, -⟩, hparts⟩ := h
  simp only [Scan.bounds] at hkey hle
  by_cases hin : valueStart < line.length
  · obtain ⟨c, rest, hc⟩ := exists_standsAt_cons hin
    have hnext : valueStart + 1 ≤ limit := by omega
    have hround : gapRound limit line keyEnd valueStart seen =
        if !isSpace c && (seen || !isSeparator c) then
          .ok (.again (.tail ⟨keyEnd, valueStart, line.length⟩))
        else .ok (.again (.gap keyEnd (valueStart + 1) (seen || !isSpace c))) := by
      rw [gapRound, if_pos hin, hc.get_eq, ok_bind, add_eq_ok hnext, ok_bind]
      rfl
    by_cases hstop : (!isSpace c && (seen || !isSeparator c)) = true
    · rw [if_pos hstop] at hround
      rw [parts_gap_stop hc hstop] at hparts
      exact .again hround ⟨⟨hkey, hle, Nat.le_refl _⟩, hparts⟩
    · rw [if_neg hstop] at hround
      rw [parts_gap_next hc hstop] at hparts
      exact .again hround (isSound_gap (Nat.le_succ_of_le hkey) hin hparts)
  · have heq : valueStart = line.length := by omega
    subst heq
    rw [parts_gap_end] at hparts
    exact .again (if_neg hin) ⟨⟨hkey, hle, Nat.le_refl _⟩, hparts⟩

theorem leads_tail (h : (Scan.tail bounds).IsSound line) :
    (splitting limit line).Leads (Scan.IsSound line) (FoundBounds line) (.tail bounds) := by
  obtain ⟨keyEnd, valueStart, valueEnd⟩ := bounds
  obtain ⟨⟨hkey, hvalue, hle⟩, hparts⟩ := h
  simp only [Scan.bounds] at hkey hvalue hle
  simp only [Scan.parts] at hparts
  by_cases hin : valueStart < valueEnd
  · obtain ⟨last, rfl⟩ := Nat.exists_eq_succ_of_ne_zero (Nat.ne_zero_of_lt hin)
    obtain ⟨c, rest, hc⟩ := exists_standsAt_cons hle
    have hstart : valueStart ≤ last := Nat.le_of_lt_succ hin
    have hlast : (sub (last + 1) 1 : Except (Stop EscapeError) Nat) = .ok last :=
      sub_eq_ok (Nat.succ_pos _)
    have hround : tailRound line ⟨keyEnd, valueStart, last + 1⟩ =
        if isSpace c = true ∧ ¬ EndsOdd ((line.take last).drop valueStart) then
          .ok (.again (.tail ⟨keyEnd, valueStart, last⟩))
        else .ok (.done ⟨keyEnd, valueStart, last + 1⟩) := by
      rw [tailRound, if_pos hin, hlast, ok_bind, hc.get_eq, ok_bind,
        slice_eq_ok hstart (Nat.le_of_succ_le hle), ok_bind, isOpen_reverse]
      cases isSpace c with
      | true => simp [ite_not, pure, Except.pure]
      | false => rfl
    -- The step asks of the last character what `trimEnd` asks of it.
    rw [slice_succ hc hstart, trimEnd_concat] at hparts
    by_cases hgo : isSpace c = true ∧ ¬ EndsOdd ((line.take last).drop valueStart)
    · rw [if_pos hgo] at hround hparts
      exact .again hround ⟨⟨hkey, hstart, Nat.le_of_succ_le hle⟩, hparts⟩
    · rw [if_neg hgo] at hround hparts
      rw [← slice_succ hc hstart] at hparts
      exact .done hround ⟨_, rfl, ⟨hkey, hvalue, hle⟩, hparts⟩
  · have heq : valueStart = valueEnd := by omega
    subst heq
    have hempty : (line.take valueStart).drop valueStart = [] := by simp
    rw [hempty] at hparts
    refine .done (if_neg hin) ⟨_, rfl, ⟨hkey, hvalue, hle⟩, ?_⟩
    rw [← hparts, hempty]
    rfl

theorem keeps_splitting (hlimit : line.length ≤ limit) :
    (splitting limit line).Keeps (Scan.IsSound line) (FoundBounds line) := by
  intro scan h
  cases scan with
  | key keyEnd escaped => exact leads_key hlimit h
  | gap keyEnd valueStart seen => exact leads_gap hlimit h
  | tail bounds => exact leads_tail h

/-! ## All steps -/

theorem isSound_start (line : List Char) : (Scan.key 0 false).IsSound line :=
  isSound_key (Nat.zero_le _) (parts_start line)

/-- The bounds are in order in every state of the scan. -/
theorem areOrdered_of_reaches (hlimit : line.length ≤ limit)
    (h : (splitting limit line).Reaches (.key 0 false) scan) :
    (scan.bounds line).AreOrdered line :=
  (h.inv (keeps_splitting hlimit) (isSound_start line)).areOrdered

/-- The scan ends with the bounds of the key and the value. -/
theorem foundBounds_run (hlimit : line.length ≤ limit) :
    FoundBounds line ((splitting limit line).run (.key 0 false)) :=
  (keeps_splitting hlimit).post_run (isSound_start line)

end Enrich.Properties.ByPosition
