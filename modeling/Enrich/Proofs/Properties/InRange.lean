import Enrich.Proofs.Properties.Cursor
import Enrich.Proofs.Properties.Positions
import Enrich.Proofs.Properties.Runs

/-!
# Reading within bounds

A properties text read by position, as a machine with numbers of a bounded type reads it: the parts
of each line by their bounds, and their escapes with a cursor. No position leaves its line and no
number its range, so that this reader and `parse` give the same entries and the same errors
(`staysInRange`).
-/

namespace Enrich.Properties.ByPosition

open Checked

/-- The text that a raw key or value stands for. -/
def readText (limit : Nat) (raw : List Char) : Except (Stop EscapeError) (List Char) :=
  (reading limit raw).run ⟨0, []⟩

/-- The key and the value of a logical line. -/
def readEntry (limit : Nat) (line : List Char) : Except (Stop EscapeError) (String × String) := do
  let bounds ← (splitting limit line).run (.key 0 false)
  let rawKey ← slice line 0 bounds.keyEnd
  let key ← readText limit rawKey
  let rawValue ← slice line bounds.valueStart bounds.valueEnd
  let value ← readText limit rawValue
  pure (String.ofList key, String.ofList value)

/-- The entries of some logical lines. -/
def readEntries (limit : Nat) :
    List (Nat × List Char) → Except (Stop ParseError) (List (String × String))
  | [] => .ok []
  | (number, line) :: lines => do
    let entry ← (readEntry limit line).mapError (Stop.map (ParseError.mk number))
    let entries ← readEntries limit lines
    pure (entry :: entries)

/-- The entries of a text, in its order. -/
def parse (limit : Nat) (text : String) : Except (Stop ParseError) (List (String × String)) :=
  readEntries limit (logicalLines text.toList)

variable {limit : Nat} {line : List Char} {lines : List (Nat × List Char)}

theorem readText_eq {raw : List Char} (hlimit : raw.length + 4 ≤ limit) :
    readText limit raw = (unescape raw).mapError .refused :=
  run_reading hlimit

theorem readEntry_eq_mapError (hlimit : line.length + 4 ≤ limit) :
    readEntry limit line = (Properties.readEntry line).mapError .refused := by
  have hfound : FoundBounds line ((splitting limit line).run (.key 0 false)) :=
    foundBounds_run (by omega)
  obtain ⟨bounds, hrun, ⟨hkey, hvalue, hle⟩, hparts⟩ := hfound
  have hkeyLength : ((line.take bounds.keyEnd).drop 0).length + 4 ≤ limit := by
    simp only [List.drop_zero, List.length_take]
    omega
  have hvalueLength : ((line.take bounds.valueEnd).drop bounds.valueStart).length + 4 ≤ limit := by
    simp only [List.length_drop, List.length_take]
    omega
  rw [readEntry, hrun, ok_bind, slice_eq_ok (Nat.zero_le _) (by omega), ok_bind,
    readText_eq hkeyLength, slice_eq_ok hvalue hle, List.drop_zero, Properties.readEntry, ← hparts]
  simp only
  cases unescape (line.take bounds.keyEnd) with
  | error cause => rfl
  | ok key =>
    rw [mapError_ok, ok_bind, ok_bind, readText_eq hvalueLength]
    cases unescape ((line.take bounds.valueEnd).drop bounds.valueStart) with
    | error cause => rfl
    | ok value => rfl

theorem readEntries_eq_mapError (hlimit : ∀ numbered ∈ lines, numbered.2.length + 4 ≤ limit) :
    readEntries limit lines = (Properties.readEntries lines).mapError .refused := by
  induction lines with
  | nil => rfl
  | cons numbered lines ih =>
    obtain ⟨number, line⟩ := numbered
    obtain ⟨hline, hlines⟩ := List.forall_mem_cons.mp hlimit
    rw [readEntries, readEntry_eq_mapError hline, ih hlines, Properties.readEntries]
    cases Properties.readEntry line with
    | error cause => rfl
    | ok entry =>
      cases Properties.readEntries lines with
      | error e => rfl
      | ok entries => rfl

/-- How a text is read where no position is above `limit`. -/
structure StaysInRange (limit : Nat) (text : String) : Prop where
  /-- The reader by position ends as `parse` does: with the entries or with a refusal, never at a
  position that is not there or with a number out of range. -/
  parse_eq : parse limit text = (Properties.parse text).mapError .refused
  /-- The number of a line is not out of range either. -/
  number_le : ∀ numbered ∈ logicalLines text.toList, numbered.1 ≤ limit
  /-- The bounds of an entry are in order from the first step to the last. -/
  areOrdered : ∀ numbered ∈ logicalLines text.toList, ∀ scan,
    (splitting limit numbered.2).Reaches (.key 0 false) scan →
      (scan.bounds numbered.2).AreOrdered numbered.2
  /-- The cursor is in its key or value, or at the end of it. -/
  position_le : ∀ numbered ∈ logicalLines text.toList,
    ∀ raw ∈ [(splitEntry numbered.2).1, (splitEntry numbered.2).2], ∀ cursor,
      (reading limit raw).Reaches ⟨0, []⟩ cursor → cursor.position ≤ raw.length
  /-- Each unit has sixteen bits. -/
  unit_le : ∀ raw start unit, readUnit limit raw start = .ok unit → unit ≤ 0xFFFF
  /-- Each pair is a code point outside the basic plane, and that has a character. -/
  exists_combined : ∀ high low, Text.isHighSurrogate high = true → Text.isLowSurrogate low = true →
    ∃ combined c, combine high low = .ok combined ∧ 0x10000 ≤ combined ∧ combined ≤ 0x10FFFF ∧
      scalar combined = .ok c

theorem length_splitEntry_le (line : List Char) :
    ∀ raw ∈ [(splitEntry line).1, (splitEntry line).2], raw.length ≤ line.length := by
  obtain ⟨key, gap, value, tail, h⟩ := exists_isEntry line
  rw [h.splitEntry_eq, h.line_eq]
  simp only [List.forall_mem_cons, List.length_append]
  refine ⟨by omega, by omega, ?_⟩
  simp

theorem logicalLines_bounds (text : String) : ∀ numbered ∈ logicalLines text.toList,
    numbered.1 ≤ text.length + 1 ∧ numbered.2.length ≤ text.length := by
  have hlines : AreNaturalLines text.toList (naturalLines text.toList) :=
    areNaturalLines_iff.mpr rfl
  have hlogical : AreLogicalLines 1 (naturalLines text.toList) (logicalLines text.toList) :=
    areLogicalLines_iff.mpr rfl
  have hlength := hlines.length_le
  rw [String.length_toList] at hlength
  intro numbered hnumbered
  have hnumber := hlogical.number_bounds numbered hnumbered
  have hline := (hlogical.sublist numbered hnumbered).length_le
  omega

theorem combineSurrogates_bounds {high low : Nat} (hhigh : Text.isHighSurrogate high = true)
    (hlow : Text.isLowSurrogate low = true) : 0x10000 ≤ Text.combineSurrogates high low ∧
      Text.combineSurrogates high low ≤ 0x10FFFF := by
  simp only [Text.isHighSurrogate, Text.isLowSurrogate, Bool.and_eq_true, decide_eq_true_eq]
    at hhigh hlow
  unfold Text.combineSurrogates
  omega

/-- **Reading stays in range.** Where the numbers that count positions have room for the text and
four more, as in any memory that holds the text, no text makes the reader leave a line, a key or a
value, or compute a number out of range. -/
theorem staysInRange (text : String) (hlimit : text.length + 4 ≤ limit) :
    StaysInRange limit text := by
  have hbounds := logicalLines_bounds text
  have hroom : ∀ numbered ∈ logicalLines text.toList, numbered.2.length + 4 ≤ limit := by
    intro numbered hnumbered
    have hline := hbounds numbered hnumbered
    omega
  refine ⟨readEntries_eq_mapError hroom, ?_, ?_, ?_, ?_, ?_⟩
  · intro numbered hnumbered
    have hline := hbounds numbered hnumbered
    omega
  · intro numbered hnumbered scan hscan
    have hline := hroom numbered hnumbered
    exact areOrdered_of_reaches (by omega) hscan
  · intro numbered hnumbered raw hraw cursor hcursor
    have hline := hroom numbered hnumbered
    have hlength := length_splitEntry_le numbered.2 raw hraw
    exact position_le_of_reaches (by omega) hcursor
  · intro raw start unit hunit
    exact readUnit_le hunit
  · intro high low hhigh hlow
    obtain ⟨c, hchar⟩ := exists_pairChar hhigh hlow
    obtain ⟨hlo, hhi⟩ := combineSurrogates_bounds hhigh hlow
    rw [pairChar?, if_pos hlow] at hchar
    exact ⟨_, c, combine_eq_ok hhigh hlow, hlo, hhi, scalar_eq_ok hchar⟩

/-- A value with a pair, a blank that is escaped and one that is dropped. -/
theorem staysInRange_pair :
    "k: \\uD83D\\uDE00\\ \t".length + 4 ≤ 0xFFFFFFFFFFFFFFFF ∧
      StaysInRange 0xFFFFFFFFFFFFFFFF "k: \\uD83D\\uDE00\\ \t" ∧
      parse 0xFFFFFFFFFFFFFFFF "k: \\uD83D\\uDE00\\ \t" = .ok [("k", "😀 ")] := by
  have hlimit : "k: \\uD83D\\uDE00\\ \t".length + 4 ≤ 0xFFFFFFFFFFFFFFFF := by decide
  have hrange := staysInRange "k: \\uD83D\\uDE00\\ \t" hlimit
  have hparse : Properties.parse "k: \\uD83D\\uDE00\\ \t" = .ok [("k", "😀 ")] := by
    decide +kernel
  refine ⟨hlimit, hrange, ?_⟩
  rw [hrange.parse_eq, hparse]
  rfl

/-- With room for three positions more only, the end of the missing digits is out of range. -/
example : parse 5 "\\u" = .error .overflow := by
  decide +kernel

end Enrich.Properties.ByPosition
