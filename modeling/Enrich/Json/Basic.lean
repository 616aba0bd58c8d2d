import Enrich.Number.Shortest
import Enrich.Text.Quoted

/-!
# JSON values

The values of JSON texts. Whole numbers of at most 64 bits are kept exactly and all others are
binary numbers. The members of an object stand in order; under a name that stands twice the first
member counts.
-/

namespace Enrich

/-- A JSON value. -/
inductive Json where
  | null
  | bool (b : Bool)
  | int (i : Int)
  | float (x : Binary64)
  | str (s : String)
  | arr (items : List Json)
  | obj (members : List (String × Json))
  deriving Repr

namespace Json

/-- What the value is, in words. -/
def describe : Json → String
  | null => "null"
  | bool b => "boolean `" ++ (if b then "true" else "false") ++ "`"
  | int i => "integer `" ++ toString i ++ "`"
  | float x => "floating point `" ++ x.text ++ "`"
  | str s => "string " ++ Text.quoted s
  | arr _ => "sequence"
  | obj _ => "map"

/-- The member of an object under a name. -/
def member? (name : String) : List (String × Json) → Option Json
  | [] => none
  | (n, v) :: rest => if n = name then some v else member? name rest

end Json

end Enrich
