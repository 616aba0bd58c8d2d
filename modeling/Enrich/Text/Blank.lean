/-!
# Blank characters

Blanks are the characters with the Unicode property `White_Space`.
-/

namespace Enrich.Text

/-- Whether `c` is a space, a tab or a line end in any script. -/
def isBlank (c : Char) : Bool :=
  let n := c.toNat
  (0x9 ≤ n && n ≤ 0xD) || n == 0x20 || n == 0x85 || n == 0xA0 || n == 0x1680 ||
    (0x2000 ≤ n && n ≤ 0x200A) || n == 0x2028 || n == 0x2029 || n == 0x202F || n == 0x205F ||
    n == 0x3000

/-- Whether every character of the text is blank. -/
def allBlank (text : String) : Bool :=
  text.toList.all isBlank

theorem allBlank_eq_false_iff {text : String} :
    allBlank text = false ↔ ∃ c ∈ text.toList, isBlank c = false := by
  simp [allBlank]

/-- The text without the blanks at its two ends. -/
def trim (text : String) : String :=
  String.ofList ((text.toList.dropWhile isBlank).reverse.dropWhile isBlank).reverse

end Enrich.Text
