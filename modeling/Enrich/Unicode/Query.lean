import Enrich.Unicode.Age
import Enrich.Unicode.Property
import Enrich.Unicode.Script
import Enrich.Unicode.Segmentation

/-!
# Character classes by name

A pattern names a character class by a property alone (`Greek`, `Lowercase_Letter`) or by a
property and its value (`Script=Greek`). Names are compared loosely: case, blanks, underscores and
hyphens do not count, nor does a leading `is`.
-/

namespace Enrich.Unicode

/-- The name of a character class. -/
inductive Query where
  | named (name : String)
  | valued (property value : String)
  deriving DecidableEq, Repr

/-- The form of a name in which the tables keep it. The name `isc` would lose its start to the rule
on a leading `is`, so it stays. -/
def looseName (name : String) : String :=
  let kept (cs : List Char) : List Char :=
    (cs.filter fun c => c.toNat < 0x80 && c != ' ' && c != '_' && c != '-').map Char.toLower
  match name.toList with
  | i :: s :: rest =>
    if i.toLower == 'i' && s.toLower == 's' then
      if kept rest == ['c'] then "isc" else String.ofList (kept rest)
    else String.ofList (kept (i :: s :: rest))
  | cs => String.ofList (kept cs)

/-- The set of a class that is named alone. Three short names of categories are also short names of
other properties, and the categories win. -/
def namedSet? (name : String) : Option CharSet :=
  let property :=
    if ["cf", "sc", "lc"].contains name then none else NamedSet.lookup? Property.table name
  (property.or (NamedSet.lookup? Category.table name)).or (NamedSet.lookup? Script.table name)

/-- The characters whose age is at most that of a version: those that the version or an older one
added. -/
def ageSet? (version : String) : Option CharSet :=
  match Age.table.span (!·.names.contains version) with
  | (older, at_ :: _) => some (Category.anyOf ((at_ :: older).map (·.chars)))
  | (_, []) => none

/-- The set of a class that is named by a property and its value. -/
def valuedSet? (property value : String) : Option CharSet :=
  if ["gc", "generalcategory"].contains property then NamedSet.lookup? Category.table value
  else if ["sc", "script"].contains property then NamedSet.lookup? Script.table value
  else if ["scx", "scriptextensions"].contains property then
    (NamedSet.lookup? Script.extensionTable value).or (NamedSet.lookup? Script.table value)
  else if property == "age" then ageSet? value
  else if ["gcb", "graphemeclusterbreak"].contains property then
    NamedSet.lookup? Segmentation.graphemeTable value
  else if ["wb", "wordbreak"].contains property then
    NamedSet.lookup? Segmentation.wordTable value
  else if ["sb", "sentencebreak"].contains property then
    NamedSet.lookup? Segmentation.sentenceTable value
  else none

/-- The characters of the named class, if the name is known. -/
def Query.chars? : Query → Option CharSet
  | named name => namedSet? (looseName name)
  | valued property value => valuedSet? (looseName property) (looseName value)

end Enrich.Unicode
