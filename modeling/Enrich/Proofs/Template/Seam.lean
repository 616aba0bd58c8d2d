import Enrich.Proofs.Ordered.Map
import Enrich.Proofs.Template.Reading
import Mathlib.Data.List.DropRight

/-!
# Templates put together

A hole of two templates that are put together lies within one of them, unless it is opened in the
first one and closed in the second. The first one leaves a hole open if behind its last closing
brace there is an opening, or a `$` at the very end that may still become one (`LeavesOpen`).
Exactly the templates that leave none open can be filled apart from whatever follows them
(`fill_append_iff`).
-/

namespace Enrich.Template

/-- Whether a text without closing braces starts a hole that text behind it may end. -/
def Opens (tail : List Char) : Prop :=
  ['$', '{'] <:+: tail ∨ tail.getLast? = some '$'

/-- Whether a text is divided behind its last closing brace; one without such a brace is all
tail. -/
structure IsDivided (text front tail : List Char) : Prop where
  text_eq : text = front ++ tail
  front_closed : front = [] ∨ front.getLast? = some '}'
  tail_unclosed : '}' ∉ tail

/-- Whether a hole may be open at the end of a text. -/
def LeavesOpen (text : List Char) : Prop :=
  ∃ front tail, IsDivided text front tail ∧ Opens tail

variable {values : StringMap String} {text front tail rest : List Char} {c : Char}

/-! ## Behind a closing brace -/

theorem exists_isDivided (text : List Char) : ∃ front tail, IsDivided text front tail := by
  refine ⟨text.rdropWhile (· ≠ '}'), text.rtakeWhile (· ≠ '}'),
    (List.rdropWhile_append_rtakeWhile).symm, ?_, ?_⟩
  · by_cases hfront : text.rdropWhile (· ≠ '}') = []
    · exact .inl hfront
    · right
      have hlast := List.rdropWhile_last_not (· ≠ '}') text hfront
      rw [List.getLast?_eq_some_getLast hfront]
      simpa using hlast
  · intro hmem
    have hne := List.mem_rtakeWhile_imp hmem
    simp at hne

/-- Where no hole is opened, none is with more text behind, unless the seam splits an opening. -/
theorem not_opening_append (hopen : ∀ behind, c :: front ≠ '$' :: '{' :: behind)
    (hseam : front = [] → c = '$' → rest.head? ≠ some '{') :
    ∀ behind, c :: (front ++ rest) ≠ '$' :: '{' :: behind := by
  intro behind h
  cases front with
  | nil =>
    obtain ⟨hc, hrest⟩ := List.cons.inj h
    exact hseam rfl hc (by rw [← List.nil_append rest, hrest]; rfl)
  | cons d front =>
    cases h
    exact hopen front rfl

/-- A closing brace ends what is open, so what follows it is read as on its own. -/
theorem piecesFrom_append_brace (opened : Option (List Char)) (front rest : List Char) :
    piecesFrom opened (front ++ '}' :: rest) =
      piecesFrom opened (front ++ ['}']) ++ piecesFrom none rest := by
  have hbrace : ∀ text, piecesFrom none ('}' :: text) = .char '}' :: piecesFrom none text :=
    fun text => piecesFrom_none_of_not_opening fun behind h => by cases h
  induction opened, front using piecesFrom.induct with
  | case1 =>
    rw [List.nil_append, List.nil_append, hbrace, hbrace]
    rfl
  | case2 front ih =>
    simp only [List.cons_append, piecesFrom]
    exact ih
  | case3 c front hopen ih =>
    have hstep : ∀ text, piecesFrom none (c :: (front ++ '}' :: text)) =
        .char c :: piecesFrom none (front ++ '}' :: text) := by
      intro text
      refine piecesFrom_none_of_not_opening (not_opening_append ?_ fun _ _ => by simp)
      intro behind h
      obtain ⟨hc, hfront⟩ := List.cons.inj h
      exact hopen behind hc hfront
    rw [List.cons_append, List.cons_append, hstep, hstep, ih, List.cons_append]
  | case4 name =>
    rw [List.nil_append, List.nil_append, piecesFrom, piecesFrom]
    split
    · rfl
    · rfl
  | case5 name front hname ih =>
    simp only [List.cons_append, piecesFrom, hname, if_true]
    rw [ih]
  | case6 name front hname ih =>
    simp only [List.cons_append, piecesFrom, hname, Bool.false_eq_true, if_false]
    rw [ih]
  | case7 name c front hc ih =>
    rw [List.cons_append, List.cons_append, piecesFrom_some_of_ne hc, piecesFrom_some_of_ne hc, ih]

/-- What stands before the last closing brace is read alike whatever follows. -/
theorem IsDivided.piecesFrom_append (h : IsDivided text front tail) (rest : List Char) :
    piecesFrom none (text ++ rest) = piecesFrom none front ++ piecesFrom none (tail ++ rest) := by
  rw [h.text_eq, List.append_assoc]
  rcases h.front_closed with rfl | hlast
  · rfl
  · obtain ⟨front, rfl⟩ := List.getLast?_eq_some_iff.mp hlast
    rw [List.append_assoc, List.singleton_append, piecesFrom_append_brace]

/-! ## Plain text and open holes -/

theorem not_opens_nil : ¬ Opens [] := by
  simp [Opens]

theorem opens_cons (hopen : ∀ behind, c :: tail ≠ '$' :: '{' :: behind) (hne : tail ≠ []) :
    Opens (c :: tail) ↔ Opens tail := by
  have hprefix : ¬ ['$', '{'] <+: c :: tail := by
    rintro ⟨behind, h⟩
    exact hopen behind h.symm
  obtain ⟨d, others, rfl⟩ := List.exists_cons_of_ne_nil hne
  rw [Opens, Opens, List.infix_cons_iff, or_iff_right hprefix, List.getLast?_cons_cons]

/-- A text that opens no hole is plain, whatever follows. -/
theorem piecesFrom_append_of_not_opens (h : ¬ Opens tail) (rest : List Char) :
    piecesFrom none (tail ++ rest) = tail.map .char ++ piecesFrom none rest := by
  induction tail with
  | nil => rfl
  | cons c tail ih =>
    have hopen : ∀ behind, c :: tail ≠ '$' :: '{' :: behind := by
      rintro behind htail
      exact h (.inl ⟨[], behind, by rw [htail]; rfl⟩)
    have hseam : tail = [] → c = '$' → rest.head? ≠ some '{' := by
      rintro rfl rfl
      exact absurd (.inr rfl) h
    have htail : ¬ Opens tail := by
      by_cases hne : tail = []
      · rw [hne]
        exact not_opens_nil
      · rwa [← opens_cons hopen hne]
    rw [List.cons_append, piecesFrom_none_of_not_opening (not_opening_append hopen hseam), ih htail,
      List.map_cons, List.cons_append]

/-- A text that opens a hole is plain up to there, and a name and a closing brace behind it make the
hole. -/
theorem exists_hole_of_opens (h : Opens tail) (hunclosed : '}' ∉ tail) :
    ∃ plain name opening : List Char, plain.length < tail.length ∧
      ∀ more, more ≠ [] → '}' ∉ more → piecesFrom none (tail ++ (opening ++ (more ++ ['}']))) =
        plain.map .char ++ [.hole (String.ofList (name ++ more))] := by
  induction tail with
  | nil => exact absurd h not_opens_nil
  | cons c tail ih =>
    obtain ⟨-, htail⟩ := not_or.mp (List.mem_cons.not.mp hunclosed)
    by_cases hopening : ∃ behind, c :: tail = '$' :: '{' :: behind
    · obtain ⟨name, hname⟩ := hopening
      cases hname
      refine ⟨[], name, [], Nat.succ_pos _, fun more hmore hclosed => ?_⟩
      have hfresh : '}' ∉ name ++ more := by
        rw [List.mem_append, not_or]
        exact ⟨fun hmem => htail (List.mem_cons_of_mem _ hmem), hclosed⟩
      have hhole := @piecesFrom_hole (name ++ more) [] (by simp [hmore]) hfresh
      simpa [piecesFrom] using hhole
    · have hopen := not_exists.mp hopening
      by_cases hne : tail = []
      · -- All that is left is a dollar sign, and the brace that opens the hole is still to come.
        subst hne
        have hc : c = '$' := by
          rcases h with hinfix | hlast
          · exact absurd hinfix.length_le (by simp)
          · exact Option.some.inj hlast
        subst hc
        refine ⟨[], [], ['{'], Nat.succ_pos _, fun more hmore hclosed => ?_⟩
        have hhole := @piecesFrom_hole more [] hmore hclosed
        simpa [piecesFrom] using hhole
      · obtain ⟨plain, name, opening, hlength, hhole⟩ := ih ((opens_cons hopen hne).mp h) htail
        refine ⟨c :: plain, name, opening, by simpa using hlength, fun more hmore hclosed => ?_⟩
        have hstep : ∀ behind, c :: (tail ++ (opening ++ (more ++ ['}']))) ≠ '$' :: '{' :: behind :=
          not_opening_append hopen fun hnil => absurd hnil hne
        rw [List.cons_append, piecesFrom_none_of_not_opening hstep, hhole more hmore hclosed,
          List.map_cons, List.cons_append]

/-! ## Filling -/

theorem flatMap_fill_map_char (text : List Char) :
    (text.map .char).flatMap (Piece.fill values) = text := by
  simp [List.flatMap_map, Piece.fill]

/-- Behind any name there is more that makes it one without a value. -/
theorem exists_missing (values : StringMap String) (name : List Char) :
    ∃ more, more ≠ [] ∧ '}' ∉ more ∧ values.find? (String.ofList (name ++ more)) = none := by
  obtain ⟨n, hn⟩ := values.exists_length_bound
  refine ⟨List.replicate (n + 1) 'x', by simp, by simp, hn _ ?_⟩
  simp
  omega

/-- What is filled in front of the tail is filled alike whatever follows. -/
theorem toList_fill_append {t₁ : String} (h : IsDivided t₁.toList front tail)
    (values : StringMap String) (t₂ : String) : (fill values (t₁ ++ t₂)).toList =
      (piecesFrom none front).flatMap (Piece.fill values) ++
        (piecesFrom none (tail ++ t₂.toList)).flatMap (Piece.fill values) := by
  rw [toList_fill, pieces, String.toList_append, h.piecesFrom_append, List.flatMap_append]

/-- A tail is kept as it is if nothing follows. -/
theorem toList_fill_of_isDivided {t₁ : String} (h : IsDivided t₁.toList front tail)
    (values : StringMap String) :
    (fill values t₁).toList = (piecesFrom none front).flatMap (Piece.fill values) ++ tail := by
  have hfill := toList_fill_append h values ""
  rwa [String.append_empty, String.toList_empty, List.append_nil,
    piecesFrom_none_of_unclosed h.tail_unclosed, flatMap_fill_map_char] at hfill

/-- **Filling goes through where no hole is open.** A template is filled apart from what follows it,
whatever that may be, if and only if it leaves no hole open: behind its last closing brace, or in all
of it if it has none, there is no opening and no `$` at the end. -/
theorem fill_append_iff (values : StringMap String) (t₁ : String) :
    (∀ t₂, fill values (t₁ ++ t₂) = fill values t₁ ++ fill values t₂) ↔
      ¬ LeavesOpen t₁.toList := by
  constructor
  · rintro hfill ⟨front, tail, hdivided, hopens⟩
    obtain ⟨plain, name, opening, hlength, hhole⟩ :=
      exists_hole_of_opens hopens hdivided.tail_unclosed
    obtain ⟨more, hmore, hclosed, hmissing⟩ := exists_missing values name
    obtain ⟨t₂, ht₂⟩ : ∃ t₂ : String, t₂.toList = opening ++ (more ++ ['}']) :=
      ⟨String.ofList _, String.toList_ofList⟩
    -- The hole has no value, so with the text that closes it the tail comes out shorter.
    have hjoined := toList_fill_append hdivided values t₂
    rw [ht₂, hhole more hmore hclosed, List.flatMap_append, flatMap_fill_map_char,
      List.flatMap_singleton, Piece.fill, hmissing, hfill t₂, String.toList_append,
      toList_fill_of_isDivided hdivided, List.append_assoc] at hjoined
    have hparts : (tail ++ (fill values t₂).toList).length = plain.length := by
      rw [List.append_cancel_left hjoined]
      simp
    rw [List.length_append] at hparts
    omega
  · intro hclosed t₂
    obtain ⟨front, tail, hdivided⟩ := exists_isDivided t₁.toList
    have htail : ¬ Opens tail := fun hopens => hclosed ⟨front, tail, hdivided, hopens⟩
    rw [← String.toList_inj, toList_fill_append hdivided, piecesFrom_append_of_not_opens htail,
      List.flatMap_append, flatMap_fill_map_char, String.toList_append,
      toList_fill_of_isDivided hdivided, toList_fill, pieces, List.append_assoc]

/-- A hole that is opened on one side and closed on the other belongs to neither template. -/
example : fill ∅ ("$" ++ "\x7bx\x7d") = "" ∧ fill ∅ "$" ++ fill ∅ "\x7bx\x7d" = "$\x7bx\x7d" := by
  decide

end Enrich.Template
