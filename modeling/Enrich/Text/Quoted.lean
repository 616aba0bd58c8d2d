import Enrich.Text.Scalar
import Enrich.Unicode.Added
import Enrich.Unicode.Property

/-!
# Quoted text

Text between double quotes for messages. Quotes and backslashes are escaped, and so is every
character that cannot be seen on its own: line ends and tabs by a letter, the rest by number.
-/

namespace Enrich.Text

/-- The characters that cannot be seen on their own: blanks other than the space, control and
format characters, marks that join the character before them, characters that may be left out when
text is shown, and what no character is assigned to. The half-width sound marks join a character
only in name. -/
def invisible : CharSet :=
  .diff
    (Unicode.Category.anyOf [Unicode.Category.control, Unicode.Category.format,
      Unicode.Category.privateUse, Unicode.Category.unassigned, Unicode.Category.separator,
      Unicode.Property.graphemeExtend, Unicode.Property.defaultIgnorableCodePoint])
    (Unicode.Category.anyOf [.singleton ' ', .range 0xFF9E 0xFF9F, Unicode.Added.visible])

/-- A character as it is written between quotes. -/
def quoteChar (c : Char) : List Char :=
  match c with
  | '"' => ['\\', '"']
  | '\\' => ['\\', '\\']
  | '\n' => ['\\', 'n']
  | '\r' => ['\\', 'r']
  | '\t' => ['\\', 't']
  | '\x00' => ['\\', '0']
  | c =>
    if 0x20 ≤ c.toNat && c.toNat < 0x7F then [c]
    else if invisible.contains c then
      ['\\', 'u', '\x7b'] ++ hexDigits 6 c.toNat ++ ['\x7d']
    else [c]

/-- The text between quotes. -/
def quoted (text : String) : String :=
  "\"" ++ String.ofList (text.toList.flatMap quoteChar) ++ "\""

end Enrich.Text
