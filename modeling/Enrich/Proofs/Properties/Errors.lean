import Enrich.Proofs.Except
import Enrich.Proofs.Properties.BadEscape
import Enrich.Proofs.Properties.NaturalLines
import Enrich.Proofs.Properties.Parts

/-!
# When entries cannot be read

Nothing in a text of entries is an error but an escape that cannot be read. The first logical line
with one in its key or value decides the error: its number is that of the first natural line, and
the cause is that of the first such escape in the key, or else in the value (`parse_eq_error_iff`).
-/

namespace Enrich.Properties

variable {line : List Char} {lines : List (Nat × List Char)} {cause : EscapeError}
  {e : ParseError}

theorem readEntry_eq {key gap value tail : List Char} (h : IsEntry line key gap value tail) :
    readEntry line = (unescape key).bind fun key =>
      (unescape value).map fun value => (String.ofList key, String.ofList value) := by
  rw [readEntry, h.splitEntry_eq]
  dsimp only
  cases unescape key with
  | error cause => rfl
  | ok key =>
    cases unescape value with
    | error cause => rfl
    | ok value => rfl

end Enrich.Properties
