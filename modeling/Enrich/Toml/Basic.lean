import Enrich.Json.Basic
import Enrich.Toml.Datetime

/-!
# TOML values

The values of TOML documents and their JSON form. The members of a table stand in the order of
their names, each name once.
-/

namespace Enrich.Toml

/-- A floating-point number of any kind. -/
inductive Number where
  | finite (x : Binary64)
  | infinite (negative : Bool)
  | notANumber
  deriving DecidableEq, Repr

/-- A TOML value. -/
inductive Value where
  | string (s : String)
  | integer (i : Int)
  | float (x : Number)
  | boolean (b : Bool)
  | datetime (d : Datetime)
  | array (items : List Value)
  | table (members : List (String × Value))
  deriving Repr

/-- The members of a table. -/
abbrev Table := List (String × Value)

/-- The name of the one member of the object that stands for a date or time. -/
def datetimeMember : String := "$__toml_private_datetime"

/-- The JSON form of a number; there is none for what is not finite, so that is null. -/
def Number.toJson : Number → Json
  | finite x => .float x
  | infinite _ | notANumber => .null

mutual

/-- The JSON form of a value. -/
def Value.toJson : Value → Json
  | .string s => .str s
  | .integer i => .int i
  | .float x => x.toJson
  | .boolean b => .bool b
  | .datetime d => .obj [(datetimeMember, .str d.text)]
  | .array items => .arr (itemsToJson items)
  | .table members => .obj (membersToJson members)

/-- The JSON forms of some values. -/
def itemsToJson : List Value → List Json
  | [] => []
  | item :: items => item.toJson :: itemsToJson items

/-- The JSON forms of the members of a table. -/
def membersToJson : Table → List (String × Json)
  | [] => []
  | (name, value) :: members => (name, value.toJson) :: membersToJson members

end

/-- The member of a table under a name. -/
def member? (name : String) : Table → Option Value
  | [] => none
  | (n, v) :: rest => if n = name then some v else member? name rest

theorem member?_membersToJson (name : String) (t : Table) :
    Json.member? name (membersToJson t) = (member? name t).map Value.toJson := by
  induction t with
  | nil => rfl
  | cons m t ih =>
    simp only [membersToJson, Json.member?, member?, ih]
    split <;> rfl

end Enrich.Toml
