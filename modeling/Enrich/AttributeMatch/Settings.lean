import Enrich.Json.Basic

/-!
# Settings of an attribute match

The settings of an attribute match and their JSON form: an object whose members have the names of
the settings, or an array of the settings in order. Only the rules have to be there. Main
statement: what `toJson` writes, `ofJson` reads back.
-/

namespace Enrich.AttributeMatch

/-- What an attribute match is made from. -/
structure Settings where
  /-- The rules, one a line. -/
  rules : String
  /-- The attributes to add, as entries. -/
  add : Option String := none
  /-- The tags to add, between commas. -/
  addTags : Option String := none
  /-- Whether placeholders in values and tags are filled. -/
  substitute : Bool := false
  deriving DecidableEq, Repr

namespace Settings

/-- What a JSON value has to be. -/
inductive Expected where
  | text
  | flag
  | settings
  deriving DecidableEq, Repr

/-- The wording of what is expected. -/
def Expected.words : Expected → String
  | text => "a string"
  | flag => "a boolean"
  | settings => "struct AttributeMatchConfig"

/-- Why a JSON value holds no settings. -/
inductive DecodeError where
  | missing (member : String)
  | wrongType (found : Json) (expected : Expected)
  | noItems
  | tooManyItems (count : Nat)
  deriving Repr

/-- The wording of an error. -/
def DecodeError.message : DecodeError → String
  | missing member => "missing field `" ++ member ++ "`"
  | wrongType found expected =>
    "invalid type: " ++ found.describe ++ ", expected " ++ expected.words
  | noItems => "invalid length 0, expected " ++ Expected.settings.words ++ " with 4 elements"
  | tooManyItems count =>
    "invalid length " ++ toString count ++ ", expected fewer elements in array"

def text : Json → Except DecodeError String
  | .str s => .ok s
  | j => .error (.wrongType j .text)

/-- A text that may be missing or null. -/
def optionalText : Option Json → Except DecodeError (Option String)
  | none | some .null => .ok none
  | some j => (text j).map some

/-- A flag that may be missing and is off then. -/
def flag : Option Json → Except DecodeError Bool
  | none => .ok false
  | some (.bool b) => .ok b
  | some j => .error (.wrongType j .flag)

/-- The settings that the members of an object write. They are looked at in the order of their
names, so the first of them that is wrong is reported, and missing rules only at last. -/
def ofMembers (members : List (String × Json)) : Except DecodeError Settings := do
  let add ← optionalText (Json.member? "add" members)
  let addTags ← optionalText (Json.member? "add_tags" members)
  let substitute ← flag (Json.member? "enable_substitution" members)
  match Json.member? "match" members with
  | none => .error (.missing "match")
  | some rules => pure ⟨← text rules, add, addTags, substitute⟩

/-- The settings that an array writes in order: rules, attributes, tags and the flag. Items at the
end may be missing. -/
def ofItems : List Json → Except DecodeError Settings
  | [] => .error .noItems
  | rules :: items => do
    let rules ← text rules
    let add ← optionalText items[0]?
    let addTags ← optionalText items[1]?
    let substitute ← flag items[2]?
    if 3 < items.length then .error (.tooManyItems (items.length + 1))
    else pure ⟨rules, add, addTags, substitute⟩

/-- The settings that a JSON value holds. -/
def ofJson : Json → Except DecodeError Settings
  | .obj members => ofMembers members
  | .arr items => ofItems items
  | j => .error (.wrongType j .settings)

/-- The object of settings, without texts that are not there. -/
def toJson (s : Settings) : Json :=
  .obj (("match", .str s.rules) ::
    (s.add.toList.map fun t => ("add", .str t)) ++
    (s.addTags.toList.map fun t => ("add_tags", .str t)) ++
    [("enable_substitution", .bool s.substitute)])

theorem ofJson_toJson (s : Settings) : ofJson s.toJson = .ok s := by
  obtain ⟨rules, add, addTags, substitute⟩ := s
  cases add <;> cases addTags <;> rfl

end Settings

end Enrich.AttributeMatch
