import Enrich.Json.Scan
import Enrich.Json.Writer
import Enrich.Proofs.Except

/-!
# Scanning what was written

The tokens of a written JSON text are scanned as what they were written for: a string with its
escapes gives its characters back (`scanString_escaped`), and between the items of an array and the
members of an object the scanner finds the next one, or the end, across line ends and indents.
-/

namespace Enrich.Json

variable {content rest text : List Char} {c : Char} {level : Nat}

/-! ## Strings -/

theorem unit?_hexDigitChar {n : Nat} (h : n < 0x20) :
    Text.unit? '0' '0' (Text.hexDigitChar (n / 16)) (Text.hexDigitChar (n % 16)) = some n := by
  revert n
  decide

theorem not_isHighSurrogate_of_lt {n : Nat} (h : n < 0x20) : Text.isHighSurrogate n = false := by
  simp only [Text.isHighSurrogate, Bool.and_eq_false_imp, decide_eq_true_eq,
    decide_eq_false_iff_not]
  omega

theorem numberedChar_toNat (c : Char) (rest : List Char) :
    numberedChar c.toNat rest = .ok (c, rest) := by
  have hscalar : Text.scalar? c.toNat = some c := dif_pos c.valid
  rw [numberedChar, hscalar]

/-- A control character is read back from the two digits of its number. -/
theorem scanUnits_hexDigitChar (h : c.toNat < 0x20) (rest : List Char) :
    scanUnits ('0' :: '0' :: Text.hexDigitChar (c.toNat / 16) ::
      Text.hexDigitChar (c.toNat % 16) :: rest) = .ok (c, rest) := by
  simp only [scanUnits, scanUnit, unit?_hexDigitChar h, bind, Except.bind,
    not_isHighSurrogate_of_lt h, numberedChar_toNat]
  rfl

/-- A character is written as an escape that is read as that character, or as it is. -/
theorem escapeChar_cases (c : Char) :
    (∃ escape, escapeChar c = '\\' :: escape ∧
      ∀ rest, scanEscape (escape ++ rest) = .ok (c, rest)) ∨
    (escapeChar c = [c] ∧ c ≠ '"' ∧ c ≠ '\\' ∧ 0x20 ≤ c.toNat) := by
  unfold escapeChar
  split
  all_goals try exact .inl ⟨_, rfl, fun _ => rfl⟩
  next hquote hbackslash _ _ _ _ _ =>
    split
    · next hlt => exact .inl ⟨_, rfl, scanUnits_hexDigitChar hlt⟩
    · next hle => exact .inr ⟨rfl, hquote, hbackslash, Nat.not_lt.mp hle⟩

/-- A written character is added to what has been read of its string. -/
theorem scanContent_escapeChar (c : Char) (content rest : List Char) :
    scanContent content (escapeChar c ++ rest) = scanContent (c :: content) rest := by
  obtain ⟨escape, hwritten, hescape⟩ | ⟨hwritten, hquote, hbackslash, hle⟩ := escapeChar_cases c
  · rw [hwritten, List.cons_append, scanContent]
    split
    · next hfault =>
      rw [hescape] at hfault
      cases hfault
    · next hread =>
      rw [hescape] at hread
      cases hread
      rfl
  · rw [hwritten, List.singleton_append, scanContent, if_neg (Nat.not_lt.mpr hle)]
    · exact hquote
    · exact hbackslash

theorem scanContent_escaped (cs content rest : List Char) :
    scanContent content (cs.flatMap escapeChar ++ '"' :: rest) =
      .ok (String.ofList (content.reverse ++ cs), rest) := by
  induction cs generalizing content with
  | nil =>
    rw [List.flatMap_nil, List.nil_append, scanContent, List.append_nil]
  | cons c cs ih =>
    rw [List.flatMap_cons, List.append_assoc, scanContent_escapeChar, ih, List.reverse_cons,
      List.append_assoc]
    rfl

/-- What is written behind the opening quote of a string is read as the string. -/
theorem scanString_escaped (s : String) (rest : List Char) :
    scanString (s.toList.flatMap escapeChar ++ '"' :: rest) = .ok (s, rest) := by
  rw [scanString, scanContent_escaped, List.reverse_nil, List.nil_append, String.ofList_toList]

theorem writeString_append (s : String) (rest : List Char) :
    writeString s ++ rest = '"' :: (s.toList.flatMap escapeChar ++ '"' :: rest) := by
  simp [writeString]

/-! ## Blanks -/

theorem skip_space (rest : List Char) : skip (' ' :: rest) = skip rest := by
  rw [skip]
  rfl

theorem skip_newLine (level : Nat) (rest : List Char) :
    skip (newLine level ++ rest) = skip rest := by
  have hspaces : ∀ n, skip (List.replicate n ' ' ++ rest) = skip rest := by
    intro n
    induction n with
    | zero => rfl
    | succ n ih => rw [List.replicate_succ, List.cons_append, skip_space, ih]
  rw [newLine, List.cons_append, skip, ← hspaces (2 * level)]
  rfl

/-- Whether a text starts with the first token of a string, an array or an object. -/
def StartsPart (text : List Char) : Prop :=
  ∃ c rest, text = c :: rest ∧ (c = '"' ∨ c = '[' ∨ c = '\x7b')

theorem StartsPart.skip_eq (h : StartsPart text) : skip text = text := by
  obtain ⟨c, rest, rfl, rfl | rfl | rfl⟩ := h <;> rfl

theorem StartsPart.append (h : StartsPart text) (rest : List Char) : StartsPart (text ++ rest) := by
  obtain ⟨c, tail, rfl, hc⟩ := h
  exact ⟨c, tail ++ rest, rfl, hc⟩

theorem startsPart_writeString (s : String) : StartsPart (writeString s) :=
  ⟨_, _, rfl, .inl rfl⟩

theorem startsPart_pretty_str (s : String) : StartsPart (pretty level (.str s)) :=
  startsPart_writeString s

theorem startsPart_pretty_arr (items : List Json) : StartsPart (pretty level (.arr items)) := by
  cases items with
  | nil => exact ⟨_, _, rfl, .inr (.inl rfl)⟩
  | cons item items =>
    rw [pretty]
    exact ⟨_, _, rfl, .inr (.inl rfl)⟩

theorem startsPart_pretty_obj (members : List (String × Json)) :
    StartsPart (pretty level (.obj members)) := by
  cases members with
  | nil => exact ⟨_, _, rfl, .inr (.inr rfl)⟩
  | cons member members =>
    obtain ⟨name, value⟩ := member
    rw [pretty]
    exact ⟨_, _, rfl, .inr (.inr rfl)⟩

/-! ## Items and members -/

theorem nextItem?_first (h : StartsPart text) :
    nextItem? true (newLine level ++ text) = .ok (some text) := by
  have hskip := h.skip_eq
  obtain ⟨c, rest, rfl, hc⟩ := h
  rw [nextItem?, skip_newLine, hskip]
  rcases hc with rfl | rfl | rfl <;> rfl

theorem skip_comma (rest : List Char) : skip (',' :: rest) = ',' :: rest := by
  rw [skip]
  rfl

theorem nextItem?_next (h : StartsPart text) :
    nextItem? false (',' :: (newLine level ++ text)) = .ok (some text) := by
  have hskip : skip (newLine level ++ text) = text := (skip_newLine level text).trans h.skip_eq
  unfold nextItem?
  rw [skip_comma]
  split
  next heq => cases heq
  next heq => cases heq
  next heq =>
    cases heq
    rw [if_neg Bool.false_ne_true, if_pos (beq_self_eq_true ','), hskip]
    obtain ⟨c, rest, rfl, rfl | rfl | rfl⟩ := h <;> rfl

theorem nextItem?_end (first : Bool) (rest : List Char) :
    nextItem? first (newLine level ++ ']' :: rest) = .ok none := by
  rw [nextItem?, skip_newLine, skip]
  rfl

theorem skip_newLine_writeString (level : Nat) (s : String) (rest : List Char) :
    skip (newLine level ++ (writeString s ++ rest)) =
      '"' :: (s.toList.flatMap escapeChar ++ '"' :: rest) := by
  rw [skip_newLine, ((startsPart_writeString s).append rest).skip_eq, writeString_append]

theorem map_scanString_escaped (s : String) (rest : List Char) :
    (scanString (s.toList.flatMap escapeChar ++ '"' :: rest)).map some = .ok (some (s, rest)) := by
  rw [scanString_escaped]
  rfl

theorem nextMember?_first (name : String) (rest : List Char) :
    nextMember? true (newLine level ++ (writeString name ++ rest)) = .ok (some (name, rest)) := by
  rw [nextMember?, skip_newLine_writeString]
  exact map_scanString_escaped name rest

theorem nextMember?_next (name : String) (rest : List Char) :
    nextMember? false (',' :: (newLine level ++ (writeString name ++ rest))) =
      .ok (some (name, rest)) := by
  unfold nextMember?
  rw [skip_comma]
  split
  next heq => cases heq
  next heq => cases heq
  next heq =>
    cases heq
    rw [if_neg Bool.false_ne_true, if_pos (beq_self_eq_true ','), skip_newLine_writeString]
    exact map_scanString_escaped name rest

theorem nextMember?_end (first : Bool) (rest : List Char) :
    nextMember? first (newLine level ++ '\x7d' :: rest) = .ok none := by
  rw [nextMember?, skip_newLine, skip]
  rfl

theorem scanColon_colon (rest : List Char) : scanColon (':' :: rest) = .ok rest := by
  rw [scanColon, skip]
  rfl

theorem scanEnd_newLine {closing : Char} (hskip : skip (closing :: rest) = closing :: rest) :
    scanEnd closing (newLine level ++ closing :: rest) = .ok rest := by
  rw [scanEnd, skip_newLine, hskip]
  exact if_pos (beq_self_eq_true closing)

/-! ## Values with text behind them -/

theorem pretty_str_append (s : String) (rest : List Char) :
    pretty level (.str s) ++ rest = '"' :: (s.toList.flatMap escapeChar ++ '"' :: rest) :=
  writeString_append s rest

theorem pretty_arr_cons_append (item : Json) (items : List Json) (rest : List Char) :
    pretty level (.arr (item :: items)) ++ rest =
      '[' :: (newLine (level + 1) ++
        (pretty (level + 1) item ++ (prettyItems level items ++ rest))) := by
  rw [pretty]
  simp only [List.append_assoc, List.cons_append]

theorem pretty_obj_cons_append (name : String) (value : Json) (members : List (String × Json))
    (rest : List Char) :
    pretty level (.obj ((name, value) :: members)) ++ rest =
      '\x7b' :: (newLine (level + 1) ++ (writeString name ++ ':' :: ' ' ::
        (pretty (level + 1) value ++ (prettyMembers level members ++ rest)))) := by
  rw [pretty]
  simp only [List.append_assoc, List.cons_append]

theorem prettyItems_nil_append (rest : List Char) :
    prettyItems level [] ++ rest = newLine level ++ ']' :: rest := by
  rw [prettyItems, List.append_assoc]
  rfl

theorem prettyItems_cons_append (item : Json) (items : List Json) (rest : List Char) :
    prettyItems level (item :: items) ++ rest =
      ',' :: (newLine (level + 1) ++
        (pretty (level + 1) item ++ (prettyItems level items ++ rest))) := by
  rw [prettyItems]
  simp only [List.append_assoc, List.cons_append]

theorem prettyMembers_nil_append (rest : List Char) :
    prettyMembers level [] ++ rest = newLine level ++ '\x7d' :: rest := by
  rw [prettyMembers, List.append_assoc]
  rfl

theorem prettyMembers_cons_append (name : String) (value : Json) (members : List (String × Json))
    (rest : List Char) :
    prettyMembers level ((name, value) :: members) ++ rest =
      ',' :: (newLine (level + 1) ++ (writeString name ++ ':' :: ' ' ::
        (pretty (level + 1) value ++ (prettyMembers level members ++ rest)))) := by
  rw [prettyMembers]
  simp only [List.append_assoc, List.cons_append]

theorem length_lt_prettyItems (level : Nat) (items : List Json) :
    items.length < (prettyItems level items).length := by
  induction items with
  | nil =>
    rw [prettyItems, List.length_append]
    exact Nat.lt_add_left _ Nat.one_pos
  | cons item items ih =>
    rw [prettyItems]
    simp only [List.length_append, List.length_cons]
    omega

theorem length_lt_prettyMembers (level : Nat) (members : List (String × Json)) :
    members.length < (prettyMembers level members).length := by
  induction members with
  | nil =>
    rw [prettyMembers, List.length_append]
    exact Nat.lt_add_left _ Nat.one_pos
  | cons member members ih =>
    obtain ⟨name, value⟩ := member
    rw [prettyMembers]
    simp only [List.length_append, List.length_cons]
    omega

end Enrich.Json
