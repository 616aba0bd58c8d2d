import Enrich.Text.Scalar

/-!
# The 16-bit units of a text

A character within the basic plane is one unit, its code point. Any other is two, a high surrogate
and a low one, which share the bits of what its code point has above the plane. `utf16Char_cases`
says which it is, by what the reader of units asks of them, and `utf16Char_of_lt` and
`utf16Char_of_combine` find the character of given units.
-/

namespace Enrich.Text

variable {c : Char} {unit high low : Nat}

/-- The units of a character. -/
def utf16Char (c : Char) : List Nat :=
  if c.toNat < 0x10000 then [c.toNat]
  else [0xD800 + (c.toNat - 0x10000) / 0x400, 0xDC00 + (c.toNat - 0x10000) % 0x400]

/-- The units of a text. -/
def utf16 (text : List Char) : List Nat :=
  text.flatMap utf16Char

theorem utf16_cons (c : Char) (text : List Char) :
    utf16 (c :: text) = utf16Char c ++ utf16 text := rfl

/-! ## Characters and code points -/

theorem scalar?_toNat (c : Char) : scalar? c.toNat = some c :=
  dif_pos c.valid

theorem toNat_of_scalar? {n : Nat} (h : scalar? n = some c) : c.toNat = n := by
  by_cases hvalid : n.isValidChar
  · rw [scalar?, dif_pos hvalid] at h
    cases h
    rfl
  · rw [scalar?, dif_neg hvalid] at h
    cases h

/-- No code point is a surrogate. -/
theorem toNat_lt_or_gt (c : Char) : c.toNat < 0xD800 ∨ 0xDFFF < c.toNat ∧ c.toNat < 0x110000 :=
  c.valid

theorem isHighSurrogate_iff : isHighSurrogate unit = true ↔ 0xD800 ≤ unit ∧ unit ≤ 0xDBFF := by
  simp [isHighSurrogate]

theorem isLowSurrogate_iff : isLowSurrogate unit = true ↔ 0xDC00 ≤ unit ∧ unit ≤ 0xDFFF := by
  simp [isLowSurrogate]

/-! ## Units of one character -/

theorem utf16Char_of_lt (h : c.toNat < 0x10000) : utf16Char c = [c.toNat] :=
  if_pos h

theorem utf16Char_of_combine (hhigh : isHighSurrogate high = true)
    (hlow : isLowSurrogate low = true) (hc : c.toNat = combineSurrogates high low) :
    utf16Char c = [high, low] := by
  rw [isHighSurrogate_iff] at hhigh
  rw [isLowSurrogate_iff] at hlow
  unfold combineSurrogates at hc
  have hle : ¬ c.toNat < 0x10000 := by omega
  have hdiv : 0xD800 + (c.toNat - 0x10000) / 0x400 = high := by omega
  have hmod : 0xDC00 + (c.toNat - 0x10000) % 0x400 = low := by omega
  rw [utf16Char, if_neg hle, hdiv, hmod]

theorem utf16Char_cases (c : Char) :
    (utf16Char c = [c.toNat] ∧ isHighSurrogate c.toNat = false) ∨
    ∃ high low, utf16Char c = [high, low] ∧ isHighSurrogate high = true ∧
      isLowSurrogate low = true ∧ combineSurrogates high low = c.toNat := by
  have hc := toNat_lt_or_gt c
  by_cases hlt : c.toNat < 0x10000
  · left
    refine ⟨utf16Char_of_lt hlt, ?_⟩
    rw [Bool.eq_false_iff, ne_eq, isHighSurrogate_iff]
    omega
  · right
    refine ⟨_, _, if_neg hlt, ?_, ?_, ?_⟩
    · rw [isHighSurrogate_iff]
      omega
    · rw [isLowSurrogate_iff]
      omega
    · unfold combineSurrogates
      omega

end Enrich.Text
