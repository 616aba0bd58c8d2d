import Enrich.Proofs.Properties.BadEscape
import Enrich.Proofs.Properties.OneLine
import Enrich.Proofs.Text.Utf16
import Mathlib.Data.List.Induction

/-!
# Texts written in escapes of units

Any 16-bit units can be written as escapes, one behind the other, and such escapes are kept whole as
a key or a value. The units are those of a text or the text cannot be read for an unpaired
surrogate (`decided`), so an entry written this way is read back just if its units are well-formed
(`parse_unitEscapes`).
-/

namespace Enrich.Properties

variable {unit high low : Nat} {units : List Nat} {esc : List Char} {escapes : List (List Char)}
  {c : Char}

/-- Whether a text is the escape of a unit. Its digits may be of either case. -/
def WritesEscape (esc : List Char) (unit : Nat) : Prop :=
  ∃ digits, WritesUnit digits unit ∧ esc = '\\' :: 'u' :: digits

/-! ## Units that are text -/

theorem joinPieces_utf16 (text : List Char) :
    joinPieces ((Text.utf16 text).map .unit) = .ok text := by
  induction text with
  | nil => rfl
  | cons c text ih =>
    rw [Text.utf16_cons, List.map_append]
    rcases Text.utf16Char_cases c with ⟨hunits, hhigh⟩ | ⟨high, low, hunits, hhigh, hlow, hc⟩
    · rw [hunits, List.map_singleton, List.singleton_append, joinPieces_unit _ hhigh, ih,
        Text.scalar?_toNat]
      rfl
    · have hpair : pairChar? high low = some c := by
        rw [pairChar?, if_pos hlow, hc, Text.scalar?_toNat]
      rw [hunits, List.map_cons, List.map_singleton, List.cons_append, List.singleton_append,
        joinPieces_pair _ hhigh, ih, hpair]
      rfl

/-- Whether some units are those of a text, or are refused for a surrogate. -/
def Decided (units : List Nat) : Prop :=
  (∃ text, Text.utf16 text = units) ∨ joinPieces (units.map .unit) = .error .unpairedSurrogate

theorem Decided.cons (h : Decided units) (hlt : unit < 0x10000)
    (hhigh : Text.isHighSurrogate unit = false) : Decided (unit :: units) := by
  cases hlow : Text.isLowSurrogate unit with
  | true =>
    right
    rw [List.map_cons, joinPieces_unit _ hhigh, scalar?_eq_none_of_isLowSurrogate hlow]
    rfl
  | false =>
    obtain ⟨c, hc⟩ := exists_scalar_of_isScalarUnit hlt ⟨hhigh, hlow⟩
    rcases h with ⟨text, rfl⟩ | hrefused
    · left
      have hunit : Text.utf16Char c = [unit] := by
        rw [← Text.toNat_of_scalar? hc] at hlt ⊢
        exact Text.utf16Char_of_lt hlt
      exact ⟨c :: text, by rw [Text.utf16_cons, hunit, List.singleton_append]⟩
    · right
      rw [List.map_cons, joinPieces_unit _ hhigh, hc, hrefused]
      rfl

theorem Decided.pair (h : Decided units) (hhigh : Text.isHighSurrogate high = true) :
    Decided (high :: low :: units) := by
  cases hlow : Text.isLowSurrogate low with
  | false =>
    right
    rw [List.map_cons, List.map_cons, joinPieces_pair _ hhigh, pairChar?, hlow]
    rfl
  | true =>
    obtain ⟨c, hc⟩ := exists_pairChar hhigh hlow
    rcases h with ⟨text, rfl⟩ | hrefused
    · left
      have hunits : Text.utf16Char c = [high, low] := by
        rw [pairChar?, if_pos hlow] at hc
        exact Text.utf16Char_of_combine hhigh hlow (Text.toNat_of_scalar? hc)
      exact ⟨c :: text, by rw [Text.utf16_cons, hunits, List.cons_append, List.singleton_append]⟩
    · right
      rw [List.map_cons, List.map_cons, joinPieces_pair _ hhigh, hc, hrefused]
      rfl

theorem decided_singleton (hhigh : Text.isHighSurrogate high = true) : Decided [high] := by
  right
  rw [List.map_singleton, joinPieces.eq_def]
  simp only [hhigh, if_true]

theorem decided (hunits : ∀ unit ∈ units, unit < 0x10000) : Decided units := by
  -- One unit or two are taken at a time, so both rests have to be decided.
  induction units using List.twoStepInduction with
  | nil => exact .inl ⟨[], rfl⟩
  | singleton unit =>
    cases hhigh : Text.isHighSurrogate unit with
    | true => exact decided_singleton hhigh
    | false => exact Decided.cons (.inl ⟨[], rfl⟩) (hunits unit List.mem_cons_self) hhigh
  | cons_cons unit next units ih ihnext =>
    obtain ⟨hunit, hnext⟩ := List.forall_mem_cons.mp hunits
    cases hhigh : Text.isHighSurrogate unit with
    | true => exact (ih (List.forall_mem_cons.mp hnext).2).pair hhigh
    | false => exact (ihnext next hnext).cons hunit hhigh

/-! ## Units in escapes -/

theorem isHexDigit_hexDigitChar {n : Nat} (h : n < 16) :
    Text.isHexDigit (Text.hexDigitChar n) = true := by
  revert n
  decide

theorem hexValue_hexDigitChar {n : Nat} (h : n < 16) : Text.hexValue (Text.hexDigitChar n) = n := by
  revert n
  decide

theorem exists_writesEscape (hlt : unit < 0x10000) : ∃ esc, WritesEscape esc unit := by
  have ha : unit / 0x1000 < 16 := by omega
  have hb : unit / 0x100 % 16 < 16 := by omega
  have hc : unit / 0x10 % 16 < 16 := by omega
  have hd : unit % 16 < 16 := by omega
  let digits := [unit / 0x1000, unit / 0x100 % 16, unit / 0x10 % 16, unit % 16].map
    Text.hexDigitChar
  have hdigits : ∀ d ∈ digits, Text.isHexDigit d = true := by
    simp [digits, isHexDigit_hexDigitChar ha, isHexDigit_hexDigitChar hb,
      isHexDigit_hexDigitChar hc, isHexDigit_hexDigitChar hd]
  have hvalue : Text.digitsValue 16 digits = unit := by
    simp only [digits, List.map_cons, List.map_nil, Text.digitsValue, List.foldl_cons,
      List.foldl_nil, hexValue_hexDigitChar ha, hexValue_hexDigitChar hb, hexValue_hexDigitChar hc,
      hexValue_hexDigitChar hd]
    omega
  exact ⟨_, digits, ⟨rfl, hdigits, hvalue⟩, rfl⟩

theorem exists_writesEscapes (hunits : ∀ unit ∈ units, unit < 0x10000) :
    ∃ escapes, List.Forall₂ WritesEscape escapes units := by
  induction units with
  | nil => exact ⟨[], .nil⟩
  | cons unit units ih =>
    obtain ⟨hunit, hunits⟩ := List.forall_mem_cons.mp hunits
    obtain ⟨esc, hesc⟩ := exists_writesEscape hunit
    obtain ⟨escapes, hescapes⟩ := ih hunits
    exact ⟨esc :: escapes, .cons hesc hescapes⟩

theorem pieces_unitEscapes (h : List.Forall₂ WritesEscape escapes units) :
    pieces escapes.flatten = units.map .unit := by
  induction h with
  | nil => rfl
  | cons hesc _ ih =>
    obtain ⟨digits, hdigits, rfl⟩ := hesc
    rw [List.flatten_cons, List.cons_append, List.cons_append, pieces_unit ⟨digits, hdigits, rfl⟩,
      ih, List.map_cons]

theorem unescape_unitEscapes (h : List.Forall₂ WritesEscape escapes units) :
    unescape escapes.flatten = joinPieces (units.map .unit) := by
  rw [unescape, pieces_unitEscapes h]

theorem isPlain_of_isHexDigit (h : Text.isHexDigit c = true) : IsPlain c := by
  have hne : ∀ d, Text.isHexDigit d = false → c ≠ d := by
    rintro d hd rfl
    rw [h] at hd
    cases hd
  refine ⟨hne _ rfl, ?_, ?_, ⟨hne _ rfl, hne _ rfl⟩, hne _ rfl, hne _ rfl⟩
  · simp [isSpace, hne ' ' rfl, hne '\t' rfl, hne '\x0C' rfl]
  · simp [isSeparator, hne '=' rfl, hne ':' rfl]

theorem WritesEscape.keptWhole (h : WritesEscape esc unit) : KeptWhole esc := by
  obtain ⟨digits, hdigits, rfl⟩ := h
  have hplain : ∀ c ∈ digits, IsPlain c := fun c hc =>
    isPlain_of_isHexDigit (hdigits.isHexDigit c hc)
  have hfront : KeptWhole ['\\', 'u'] := keptWhole_escaped (by decide)
  exact hfront.append (keptWhole_of_forall hplain)

theorem keptWhole_unitEscapes (h : List.Forall₂ WritesEscape escapes units) :
    KeptWhole escapes.flatten := by
  induction h with
  | nil => exact keptWhole_nil
  | cons hesc _ ih => exact hesc.keptWhole.append ih

/-- **Escapes of units are read as UTF-16.** All 16-bit units can be written as escapes. Where they
stand as the value or the key of an entry, next to any `other` text, the text of which they are the
units is read; if there is none, the entry is refused for an unpaired surrogate. -/
theorem parse_unitEscapes (units : List Nat) (hunits : ∀ unit ∈ units, unit < 0x10000)
    (other : String) :
    (∃ escapes, List.Forall₂ WritesEscape escapes units) ∧
    ∀ escapes, List.Forall₂ WritesEscape escapes units →
      (∀ text : String, Text.utf16 text.toList = units →
        parse (String.ofList (escape other.toList ++ '=' :: escapes.flatten)) =
          .ok [(other, text)] ∧
        parse (String.ofList (escapes.flatten ++ '=' :: escape other.toList)) =
          .ok [(text, other)]) ∧
      ((¬ ∃ text, Text.utf16 text = units) →
        parse (String.ofList (escape other.toList ++ '=' :: escapes.flatten)) =
          .error ⟨1, .unpairedSurrogate⟩ ∧
        parse (String.ofList (escapes.flatten ++ '=' :: escape other.toList)) =
          .error ⟨1, .unpairedSurrogate⟩) := by
  refine ⟨exists_writesEscapes hunits, fun escapes h => ?_⟩
  have hescapes := keptWhole_unitEscapes h
  have hother := keptWhole_escape other.toList
  rw [parse_keptWhole hother hescapes, parse_keptWhole hescapes hother, unescape_escape,
    unescape_unitEscapes h]
  constructor
  · rintro text rfl
    rw [joinPieces_utf16]
    constructor
    · change Except.ok [(String.ofList other.toList, String.ofList text.toList)] = _
      rw [String.ofList_toList, String.ofList_toList]
    · change Except.ok [(String.ofList text.toList, String.ofList other.toList)] = _
      rw [String.ofList_toList, String.ofList_toList]
  · intro hnone
    rw [(decided hunits).resolve_left hnone]
    exact ⟨rfl, rfl⟩

/-- A pair of surrogates between escaped blanks is read as it stands, and a high surrogate in front
of such a pair does not take it apart. -/
theorem parse_unitEscapes_pairs :
    parse "k=\\u0020\\uD83d\\uDe00\\u0009" = .ok [("k", " 😀\t")] ∧
      parse "\\ud83D\\uD83D\\udE00=v" = .error ⟨1, .unpairedSurrogate⟩ := by
  have hwrites : ∀ a b c d unit, Text.unit? a b c d = some unit →
      WritesEscape ['\\', 'u', a, b, c, d] unit :=
    fun a b c d unit h => ⟨[a, b, c, d], writesUnit_iff.mpr h, rfl⟩
  have hspaced : List.Forall₂ WritesEscape
      ["\\u0020".toList, "\\uD83d".toList, "\\uDe00".toList, "\\u0009".toList]
      [0x20, 0xD83D, 0xDE00, 0x9] := by
    refine .cons ?_ (.cons ?_ (.cons ?_ (.cons ?_ .nil)))
    all_goals exact hwrites _ _ _ _ _ rfl
  have hdouble : List.Forall₂ WritesEscape
      ["\\ud83D".toList, "\\uD83D".toList, "\\udE00".toList] [0xD83D, 0xD83D, 0xDE00] := by
    refine .cons ?_ (.cons ?_ (.cons ?_ .nil))
    all_goals exact hwrites _ _ _ _ _ rfl
  have hnone : ¬ ∃ text, Text.utf16 text = [0xD83D, 0xD83D, 0xDE00] := by
    rintro ⟨text, htext⟩
    have hread := joinPieces_utf16 text
    rw [htext] at hread
    cases hread
  constructor
  · exact (((parse_unitEscapes _ (by decide) "k").2 _ hspaced).1 " 😀\t" (by decide)).1
  · exact (((parse_unitEscapes _ (by decide) "v").2 _ hdouble).2 hnone).2

end Enrich.Properties
