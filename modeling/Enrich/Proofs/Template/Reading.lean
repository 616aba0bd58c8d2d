import Enrich.Template.Placeholder
import Mathlib.Data.List.Basic

/-!
# Reading a template from left to right

A template is read in one pass: where a hole starts it is taken whole, and everywhere else one
character is taken (`Reading`). A template has exactly one reading, its pieces (`reading_iff`), and
to fill it is to put out a value for each hole on the way (`fill_expands`). No value takes part in
the reading.
-/

namespace Enrich.Template

variable {values : StringMap String} {text name rest out : List Char} {ps : List Piece} {c : Char}

/-- The text of a piece in its template. -/
def Piece.source : Piece → List Char
  | char c => [c]
  | hole name => '$' :: '{' :: (name.toList ++ ['}'])

/-- Whether a text starts with a hole: behind `$` at least one character other than the closing
brace between braces. -/
def StartsHole (text : List Char) : Prop :=
  ∃ name rest, name ≠ [] ∧ '}' ∉ name ∧ text = '$' :: '{' :: (name ++ '}' :: rest)

/-- The reading of a template in one pass: where a hole starts it is taken whole, and everywhere
else one character is taken. -/
inductive Reading : List Char → List Piece → Prop
  | nil : Reading [] []
  | hole {name rest : List Char} {ps : List Piece} (hname : name ≠ []) (hclosed : '}' ∉ name)
      (hrest : Reading rest ps) :
      Reading ('$' :: '{' :: (name ++ '}' :: rest)) (.hole (String.ofList name) :: ps)
  | char {c : Char} {rest : List Char} {ps : List Piece} (hplain : ¬ StartsHole (c :: rest))
      (hrest : Reading rest ps) : Reading (c :: rest) (.char c :: ps)

/-! ## Steps -/

theorem piecesFrom_some_of_ne (hc : c ≠ '}') :
    piecesFrom (some name) (c :: rest) = piecesFrom (some (c :: name)) rest := by
  rw [piecesFrom]
  exact hc

theorem piecesFrom_some_append (hclosed : '}' ∉ text) :
    piecesFrom (some name) (text ++ rest) = piecesFrom (some (text.reverse ++ name)) rest := by
  induction text generalizing name with
  | nil => rfl
  | cons c text ih =>
    obtain ⟨hc, htext⟩ := not_or.mp (List.mem_cons.not.mp hclosed)
    rw [List.cons_append, piecesFrom_some_of_ne (Ne.symm hc), ih htext]
    simp

theorem piecesFrom_none_of_not_opening (h : ∀ behind, c :: rest ≠ '$' :: '{' :: behind) :
    piecesFrom none (c :: rest) = .char c :: piecesFrom none rest := by
  rw [piecesFrom]
  exact fun behind hc hrest => h behind (by rw [hc, hrest])

/-- What is opened and never closed is plain text. -/
theorem piecesFrom_none_of_unclosed (hclosed : '}' ∉ text) :
    piecesFrom none text = text.map .char := by
  induction text with
  | nil => rfl
  | cons c rest ih =>
    obtain ⟨hc, hrest⟩ := not_or.mp (List.mem_cons.not.mp hclosed)
    by_cases h : ∃ behind, c :: rest = '$' :: '{' :: behind
    · obtain ⟨behind, hopen⟩ := h
      cases hopen
      have hbehind : piecesFrom (some []) (behind ++ []) =
          piecesFrom (some (behind.reverse ++ [])) [] :=
        piecesFrom_some_append fun hmem => hrest (List.mem_cons_of_mem _ hmem)
      rw [List.append_nil, List.append_nil] at hbehind
      rw [piecesFrom, hbehind, piecesFrom, List.reverse_reverse]
      rfl
    · rw [piecesFrom_none_of_not_opening (not_exists.mp h), ih hrest, List.map_cons]

theorem piecesFrom_hole (hname : name ≠ []) (hclosed : '}' ∉ name) :
    piecesFrom none ('$' :: '{' :: (name ++ '}' :: rest)) =
      .hole (String.ofList name) :: piecesFrom none rest := by
  have hnonempty : ¬ (name.reverse ++ []).isEmpty = true := by simpa using hname
  rw [piecesFrom, piecesFrom_some_append hclosed, piecesFrom, if_neg hnonempty, List.append_nil,
    List.reverse_reverse]

theorem piecesFrom_char (hplain : ¬ StartsHole (c :: rest)) :
    piecesFrom none (c :: rest) = .char c :: piecesFrom none rest := by
  by_cases h : ∃ behind, c :: rest = '$' :: '{' :: behind
  · obtain ⟨behind, hopen⟩ := h
    cases hopen
    have hbrace : piecesFrom none ('{' :: behind) = .char '{' :: piecesFrom none behind :=
      piecesFrom_none_of_not_opening fun _ => by simp
    by_cases hmem : '}' ∈ behind
    · -- A closing brace comes first behind the opening, for else a hole would start here.
      obtain ⟨name, rest, rfl, hclosed⟩ := List.eq_append_cons_of_mem hmem
      have hname : name = [] := by
        by_contra hne
        exact hplain ⟨name, rest, hne, hclosed, rfl⟩
      subst hname
      rw [List.nil_append] at hbrace ⊢
      have hend : piecesFrom none ('}' :: rest) = .char '}' :: piecesFrom none rest :=
        piecesFrom_none_of_not_opening fun _ => by simp
      rw [hbrace, hend]
      rfl
    · have hplainText : '}' ∉ '$' :: '{' :: behind := by simpa using hmem
      rw [hbrace, piecesFrom_none_of_unclosed hplainText, piecesFrom_none_of_unclosed hmem]
      rfl
  · exact piecesFrom_none_of_not_opening (not_exists.mp h)

/-! ## The one reading -/

theorem Reading.eq_piecesFrom (h : Reading text ps) : ps = piecesFrom none text := by
  induction h with
  | nil => rfl
  | hole hname hclosed _ ih => rw [piecesFrom_hole hname hclosed, ← ih]
  | char hplain _ ih => rw [piecesFrom_char hplain, ← ih]

theorem reading_piecesFrom (text : List Char) : Reading text (piecesFrom none text) := by
  -- A hole takes more than one character, so the induction is on the length.
  induction hn : text.length using Nat.strongRecOn generalizing text with
  | ind n ih =>
    by_cases hhole : StartsHole text
    · obtain ⟨name, rest, hname, hclosed, rfl⟩ := hhole
      rw [piecesFrom_hole hname hclosed]
      refine .hole hname hclosed (ih rest.length ?_ rest rfl)
      simp only [← hn, List.length_cons, List.length_append]
      omega
    · cases text with
      | nil => exact .nil
      | cons c rest =>
        rw [piecesFrom_char hhole]
        exact .char hhole (ih rest.length (by rw [← hn]; exact Nat.lt_succ_self _) rest rfl)

theorem reading_iff : Reading text ps ↔ ps = piecesFrom none text :=
  ⟨Reading.eq_piecesFrom, fun h => h ▸ reading_piecesFrom text⟩

theorem reading_pieces (template : String) : Reading template.toList (pieces template) :=
  reading_piecesFrom template.toList

theorem flatMap_source_of_reading (h : Reading text ps) : ps.flatMap Piece.source = text := by
  induction h with
  | nil => rfl
  | hole hname hclosed _ ih => simp [Piece.source, ih]
  | char hplain _ ih => simp [Piece.source, ih]

/-- Holes are filled by themselves if every name has its own hole for a value. -/
theorem flatMap_fill_eq_source (h : ∀ name, .hole name ∈ ps →
    values.find? name = some (String.ofList (Piece.hole name).source)) :
    ps.flatMap (Piece.fill values) = ps.flatMap Piece.source := by
  refine List.flatMap_congr fun piece hpiece => ?_
  cases piece with
  | char c => rfl
  | hole name => rw [Piece.fill, h name hpiece, Option.getD_some, String.toList_ofList]

/-! ## Filling from left to right -/

/-- What a template turns into if it is filled from left to right: where a hole starts, the value
under its name is put out, or nothing if there is none, and filling goes on behind the hole;
everywhere else one character is put out as it is. -/
inductive Expands (values : StringMap String) : List Char → List Char → Prop
  | nil : Expands values [] []
  | hole {name rest out : List Char} (hname : name ≠ []) (hclosed : '}' ∉ name)
      (hrest : Expands values rest out) :
      Expands values ('$' :: '{' :: (name ++ '}' :: rest))
        (((values.find? (String.ofList name)).getD "").toList ++ out)
  | char {c : Char} {rest out : List Char} (hplain : ¬ StartsHole (c :: rest))
      (hrest : Expands values rest out) : Expands values (c :: rest) (c :: out)

theorem Reading.expands (h : Reading text ps) :
    Expands values text (ps.flatMap (Piece.fill values)) := by
  induction h with
  | nil => exact .nil
  | hole hname hclosed _ ih => exact .hole hname hclosed ih
  | char hplain _ ih => exact .char hplain ih

theorem Expands.exists_reading (h : Expands values text out) :
    ∃ ps, Reading text ps ∧ out = ps.flatMap (Piece.fill values) := by
  induction h with
  | nil => exact ⟨[], .nil, rfl⟩
  | @hole name rest out hname hclosed _ ih =>
    obtain ⟨ps, hps, rfl⟩ := ih
    exact ⟨.hole (String.ofList name) :: ps, .hole hname hclosed hps, rfl⟩
  | @char c rest out hplain _ ih =>
    obtain ⟨ps, hps, rfl⟩ := ih
    exact ⟨.char c :: ps, .char hplain hps, rfl⟩

theorem expands_iff : Expands values text out ↔
    out = (piecesFrom none text).flatMap (Piece.fill values) := by
  constructor
  · intro h
    obtain ⟨ps, hps, rfl⟩ := h.exists_reading
    rw [hps.eq_piecesFrom]
  · rintro rfl
    exact (reading_piecesFrom text).expands

theorem toList_fill (values : StringMap String) (template : String) :
    (fill values template).toList = (pieces template).flatMap (Piece.fill values) :=
  String.toList_ofList

/-- **A template is filled in one pass from left to right.** Filling puts out the value of each hole
as a left-to-right scan comes to it, and every other character as it is. Which parts are holes is
read from the template alone, whatever the values are; so text without holes stays as it is, values
are not searched for holes, and if each name has its own hole for a value, the template comes out
unchanged. -/
theorem fill_expands (template : String) :
    (∀ values filled, fill values template = filled ↔
      Expands values template.toList filled.toList) ∧
    ∃ ps, Reading template.toList ps ∧ ps.flatMap Piece.source = template.toList ∧
      (∀ values, (fill values template).toList = ps.flatMap (Piece.fill values)) ∧
      ∀ values : StringMap String,
        (∀ name, .hole name ∈ ps → values.find? name = some ("$\x7b" ++ name ++ "\x7d")) →
        fill values template = template := by
  have hsource := flatMap_source_of_reading (reading_pieces template)
  refine ⟨fun values filled => ?_, pieces template, reading_pieces template, hsource,
    fun values => toList_fill values template, fun values hself => ?_⟩
  · rw [expands_iff, ← String.toList_inj, toList_fill, pieces, eq_comm]
  · rw [← String.toList_inj, toList_fill, flatMap_fill_eq_source, hsource]
    intro name hname
    rw [hself name hname]
    simp [Piece.source, ← String.toList_inj]

end Enrich.Template
