import Enrich.Properties.Entry

/-!
# Texts with escapes

`escape` writes any text as a key or value: what would end it, be dropped or start a comment comes
behind a backslash. Reading the escapes gives the text back (`unescape_escape`). `escapeChar_cases`
says what else a reader can ask of an escaped character: it is plain, or what stands behind the
backslash ends no line.
-/

namespace Enrich.Properties

variable {text rest : List Char} {c d : Char}

/-- A character as it is written in a key or value. -/
def escapeChar : Char → List Char
  | '\\' => ['\\', '\\']
  | ' ' => ['\\', ' ']
  | '=' => ['\\', '=']
  | ':' => ['\\', ':']
  | '#' => ['\\', '#']
  | '!' => ['\\', '!']
  | '\t' => ['\\', 't']
  | '\n' => ['\\', 'n']
  | '\r' => ['\\', 'r']
  | '\x0C' => ['\\', 'f']
  | c => [c]

/-- A text as it is written in a key or value. -/
def escape (text : List Char) : List Char :=
  text.flatMap escapeChar

/-! ## One character -/

/-- Whether a character means the same with and without a backslash before it, and ends nothing. -/
structure IsPlain (c : Char) : Prop where
  ne_backslash : c ≠ '\\'
  not_space : isSpace c = false
  not_separator : isSeparator c = false
  not_comment : c ≠ '#' ∧ c ≠ '!'
  not_lineEnd : c ≠ '\n' ∧ c ≠ '\r'

/-- What may stand behind the backslash that escapes a character. -/
structure IsEscapeOf (d c : Char) : Prop where
  escapedChar_eq : escapedChar d = c
  ne_u : d ≠ 'u'
  not_lineEnd : d ≠ '\n' ∧ d ≠ '\r'

/-- All that the proofs below use of `escapeChar`. -/
theorem escapeChar_cases (c : Char) :
    (∃ d, escapeChar c = ['\\', d] ∧ IsEscapeOf d c) ∨ escapeChar c = [c] ∧ IsPlain c := by
  unfold escapeChar
  split
  all_goals try exact .inl ⟨_, rfl, by decide, by decide, by decide⟩
  next hbackslash hspace hequals hcolon hhash hbang htab hnewline hreturn hfeed =>
    refine .inr ⟨rfl, hbackslash, ?_, ?_, ⟨hhash, hbang⟩, hnewline, hreturn⟩
    · simpa [isSpace] using ⟨⟨hspace, htab⟩, hfeed⟩
    · simpa [isSeparator] using ⟨hequals, hcolon⟩

@[simp] theorem escape_cons : escape (c :: text) = escapeChar c ++ escape text := rfl

/-! ## Reading the escapes -/

theorem pieces_escaped (hd : d ≠ 'u') :
    pieces ('\\' :: d :: rest) = .char (escapedChar d) :: pieces rest := by
  rw [pieces.eq_def]
  exact if_pos hd

theorem pieces_plain (hc : c ≠ '\\') : pieces (c :: rest) = .char c :: pieces rest := by
  rw [pieces.eq_def]
  exact if_pos hc

theorem pieces_escape (text : List Char) : pieces (escape text) = text.map .char := by
  induction text with
  | nil => rfl
  | cons c text ih =>
    rw [escape_cons, List.map_cons, ← ih]
    rcases escapeChar_cases c with ⟨d, hescape, hd⟩ | ⟨hescape, hc⟩
    · rw [hescape, List.cons_append, List.singleton_append, pieces_escaped hd.ne_u,
        hd.escapedChar_eq]
    · rw [hescape, List.singleton_append, pieces_plain hc.ne_backslash]

theorem joinPieces_map_char (text : List Char) : joinPieces (text.map .char) = .ok text := by
  induction text with
  | nil => rfl
  | cons c text ih =>
    rw [List.map_cons, joinPieces, ih]
    rfl

/-- **Escapes are undone.** -/
theorem unescape_escape (text : List Char) : unescape (escape text) = .ok text := by
  rw [unescape, pieces_escape, joinPieces_map_char]

end Enrich.Properties
