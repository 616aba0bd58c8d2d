import Enrich.Proofs.Text.Lines

/-!
# Rule lines in a report

A report shows a rule line by its number among the lines of a text in which every line has an end of
its own. The two ways to cut a text agree on every rule line but one: behind the last newline a
carriage return is part of the line in a report and not part of the rule line
(`getElem?_reportLines`).
-/

namespace Enrich.Text

variable {text last piece : List Char} {pieces : List (List Char)} {c : Char} {i : Nat}

/-! ## The piece behind the last newline -/

theorem length_splitOn (c : Char) (text : List Char) :
    (text.splitOn c).length = text.count c + 1 := by
  induction text with
  | nil => rfl
  | cons a text ih =>
    rw [List.splitOn_cons_eq_if_modifyHead, List.count_cons]
    split
    · rw [List.length_cons, ih]
    · rw [List.length_modifyHead, ih, Nat.add_zero]

theorem exists_append_of_intercalate (separator : List Char) (h : pieces.getLast? = some last) :
    ∃ front, separator.intercalate pieces = front ++ last := by
  induction pieces with
  | nil => cases h
  | cons piece pieces ih =>
    cases pieces with
    | nil =>
      cases h
      exact ⟨[], by simp [List.intercalate]⟩
    | cons next pieces =>
      rw [List.getLast?_cons_cons] at h
      obtain ⟨front, hfront⟩ := ih h
      refine ⟨piece ++ (separator ++ front), ?_⟩
      simp only [List.intercalate, List.intersperse_cons_cons, List.flatten_cons,
        List.append_assoc] at hfront ⊢
      rw [hfront]

/-- Behind the last newline a text ends as its last piece does. -/
theorem getLast?_of_splitOn (h : (text.splitOn c).getLast? = some last) (hlast : last ≠ []) :
    text.getLast? = last.getLast? := by
  obtain ⟨front, hfront⟩ := exists_append_of_intercalate [c] h
  rw [List.intercalate_splitOn] at hfront
  rw [hfront, List.getLast?_append_of_ne_nil _ hlast]

/-! ## Pieces, rule lines and lines of a report -/

theorem getElem?_endedLines (h : pieces[i]? = some piece)
    (hlast : i + 1 = pieces.length → piece ≠ []) :
    (endedLines pieces)[i]? =
      some (if i + 1 = pieces.length then piece else dropReturn piece) := by
  induction pieces generalizing i with
  | nil => cases h
  | cons first pieces ih =>
    cases pieces with
    | nil =>
      cases i with
      | zero =>
        cases h
        have hempty : ¬ piece.isEmpty = true := fun hempty =>
          hlast rfl (List.isEmpty_iff.mp hempty)
        rw [endedLines, if_neg hempty]
        rfl
      | succ i => cases h
    | cons second pieces =>
      rw [endedLines]
      · cases i with
        | zero =>
          cases h
          rw [if_neg (by simp)]
          rfl
        | succ i =>
          have hlength : i + 1 + 1 = (first :: second :: pieces).length ↔
              i + 1 = (second :: pieces).length := Nat.succ_inj
          simp only [hlength] at hlast ⊢
          exact ih h hlast
      · simp

/-- A rule line is a piece of the text without one carriage return, and is not empty if it is behind
the last newline. -/
theorem exists_piece_of_ruleLines {text line : String} (h : (ruleLines text)[i]? = some line) :
    ∃ piece, (text.toList.splitOn '\n')[i]? = some piece ∧ line.toList = dropReturn piece ∧
      (i + 1 = (text.toList.splitOn '\n').length → line ≠ "") := by
  have hlines := areRuleLines_iff.mpr (rfl : _ = ruleLines text)
  obtain ⟨pieces, empties, hne, hpieces, htext, hall, hend⟩ := hlines
  rw [← eq_splitOn_iff.mpr ⟨hne, hpieces, htext⟩]
  obtain ⟨hi, hline⟩ := List.getElem?_eq_some_iff.mp h
  have hfront : ((ruleLines text).map String.toList ++ List.replicate empties [])[i]? =
      some line.toList := by
    rw [List.getElem?_append_left (by rwa [List.length_map]), List.getElem?_map, h]
    rfl
  have hlength := hall.length_eq
  rw [List.length_append, List.length_map, List.length_replicate] at hlength
  rw [forall₂_withoutReturn_iff.mp hall, List.getElem?_map, Option.map_eq_some_iff] at hfront
  obtain ⟨piece, hpiece, hdrop⟩ := hfront
  refine ⟨piece, hpiece, hdrop.symm, fun hi' hempty => hend ?_⟩
  -- No piece is left behind this one, so the line is the last rule line.
  rw [← hempty, ← h, List.getLast?_eq_getElem?]
  congr 1
  omega

/-- What a report shows under the number of a rule line: the line, but with the carriage return at
the end of the text if the line is the one behind the last newline. -/
theorem getElem?_reportLines {text line : String} (h : (ruleLines text)[i]? = some line) :
    (reportLines text)[i]? = some
      (if i + 1 = text.toList.count '\n' + 1 ∧ text.toList.getLast? = some '\r' then line ++ "\r"
      else line) := by
  obtain ⟨piece, hpiece, hline, hempty⟩ := exists_piece_of_ruleLines h
  have hnonempty : i + 1 = (text.toList.splitOn '\n').length → piece ≠ [] := by
    rintro hi rfl
    refine hempty hi (String.toList_inj.mp ?_)
    rw [hline]
    rfl
  have hshown := getElem?_endedLines hpiece hnonempty
  rw [reportLines, List.getElem?_map, hshown, Option.map_some]
  refine congrArg some ?_
  by_cases hi : i + 1 = (text.toList.splitOn '\n').length
  · have hlast : (text.toList.splitOn '\n').getLast? = some piece := by
      rw [List.getLast?_eq_getElem?, ← hpiece]
      congr 1
      omega
    have hend := getLast?_of_splitOn hlast (hnonempty hi)
    rw [if_pos hi, hend]
    rw [length_splitOn] at hi
    by_cases hreturn : piece.getLast? = some '\r'
    · rw [if_pos ⟨hi, hreturn⟩]
      obtain ⟨front, rfl⟩ := List.getLast?_eq_some_iff.mp hreturn
      rw [dropReturn, if_pos hreturn, List.dropLast_concat] at hline
      rw [String.ofList_append, ← hline, String.ofList_toList]
    · rw [if_neg fun hboth => hreturn hboth.2]
      rw [dropReturn, if_neg hreturn] at hline
      rw [← hline, String.ofList_toList]
  · rw [if_neg hi, ← hline, String.ofList_toList]
    rw [length_splitOn] at hi
    rw [if_neg fun hboth => hi hboth.1]

end Enrich.Text
