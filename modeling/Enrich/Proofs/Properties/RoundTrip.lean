import Enrich.Proofs.Properties.OneLine
import Enrich.Proofs.Text.Lines

/-!
# Entries are read back

`write` puts entries into a text, one line each. Reading it gives the same entries in the same order
(`parse_write`), whatever their keys and values are: no line of the text goes on in the next one,
is dropped as a comment or loses its blanks, and in each the key ends at the one sign that is not
escaped.
-/

namespace Enrich.Properties

/-- The line of an entry. -/
def writeLine (entry : String × String) : List Char :=
  escape entry.1.toList ++ '=' :: escape entry.2.toList

/-- The text of some entries, one line each. -/
def write (entries : List (String × String)) : String :=
  String.ofList (['\n'].intercalate (entries.map writeLine))

/-! ## The line of an entry -/

theorem readEntry_writeLine (entry : String × String) :
    readEntry (writeLine entry) = .ok entry := by
  have hkey := keptWhole_escape entry.1.toList
  have hvalue := keptWhole_escape entry.2.toList
  rw [writeLine, readEntry_eq (hkey.isEntry hvalue), unescape_escape, unescape_escape]
  show Except.ok (String.ofList entry.1.toList, String.ofList entry.2.toList) = .ok entry
  rw [String.ofList_toList, String.ofList_toList]

theorem unbroken_writeLine (entry : String × String) : Unbroken (writeLine entry) :=
  (keptWhole_escape entry.1.toList).unbroken_line (keptWhole_escape entry.2.toList)

theorem assemble_writeLine (entry : String × String) (number : Nat) (lines : List (List Char)) :
    assemble none number (writeLine entry :: lines) =
      (number, writeLine entry) :: assemble none (number + 1) lines :=
  (keptWhole_escape entry.1.toList).assemble_line (keptWhole_escape entry.2.toList) number lines

/-! ## Lines of the text -/

theorem return_notMem_write (entries : List (String × String)) :
    '\r' ∉ (write entries).toList := by
  rw [write, String.toList_ofList]
  refine Text.notMem_intercalate (by decide) fun line hline => ?_
  obtain ⟨entry, -, rfl⟩ := List.mem_map.mp hline
  exact fun hreturn => (unbroken_writeLine entry _ hreturn).2 rfl

theorem naturalLines_write {entries : List (String × String)} (h : entries ≠ []) :
    naturalLines (write entries).toList = entries.map writeLine := by
  rw [naturalLines, unifyLineEnds_of_notMem (return_notMem_write entries), write,
    String.toList_ofList]
  refine List.splitOn_intercalate '\n' (fun line hline => ?_) (by simpa using h)
  obtain ⟨entry, -, rfl⟩ := List.mem_map.mp hline
  exact fun hnewline => (unbroken_writeLine entry _ hnewline).1 rfl

theorem readEntries_assemble (entries : List (String × String)) (number : Nat) :
    readEntries (assemble none number (entries.map writeLine)) = .ok entries := by
  induction entries generalizing number with
  | nil => rfl
  | cons entry entries ih =>
    rw [List.map_cons, assemble_writeLine, readEntries, readEntry_writeLine, ih]
    rfl

/-- **Entries are read back.** Any entries can be written, and reading what is written gives just
these entries in their order. -/
theorem parse_write (entries : List (String × String)) : parse (write entries) = .ok entries := by
  cases entries with
  | nil => rfl
  | cons entry entries =>
    rw [parse, logicalLines, naturalLines_write (List.cons_ne_nil entry entries)]
    exact readEntries_assemble (entry :: entries) 1

end Enrich.Properties
