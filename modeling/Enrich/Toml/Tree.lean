import Enrich.Ordered.Map
import Enrich.Toml.Basic

/-!
# Growing tables

The tables of a document while it is read. A table may be named by a header, come about on the way
to another table, or come about through a key with dots; what may still be added to it depends on
that. Values that stand on their own, arrays and tables in braces among them, are never added to.
-/

namespace Enrich.Toml

/-- The keys that lead from a table to a place below it. -/
structure Path where
  parents : List String
  last : String
  deriving DecidableEq, Repr

/-- How a table came about. -/
inductive Origin where
  /-- By a header of its own, or as what is being read. -/
  | header
  /-- On the way to the table of a header. -/
  | passage
  /-- Through a key with dots. -/
  | dots
  deriving DecidableEq, Repr

/-- What stands under a key. -/
inductive Item where
  | value (v : Value)
  | table (origin : Origin) (entries : List (String × Item))
  /-- The tables of a header in double brackets, latest first. -/
  | tables (latestFirst : List Item)

namespace Item

/-- The table that is read into. -/
def root : Item := .table .header []

/-- The table with what stands under a key changed. -/
def alter (key : String) (change : Option Item → Option Item) : Item → Option Item
  | table origin entries =>
    (change (StringMap.findIn? key entries)).map fun item =>
      .table origin (StringMap.insertEntry key item entries)
  | _ => none

/-- The item with a change made to the table that a key on the way leads to: a new one if there is
none, the latest of several. With dots, no table of a header may be entered. -/
def enter (dots : Bool) (change : Item → Option Item) : Option Item → Option Item
  | none => change (.table (if dots then .dots else .passage) [])
  | some (table origin entries) =>
    if dots && origin = .header then none else change (.table origin entries)
  | some (tables (latest :: earlier)) =>
    (change latest).map fun latest => .tables (latest :: earlier)
  | some _ => none

/-- The table with a change made to the table that some keys lead to. -/
def within (dots : Bool) : List String → (Item → Option Item) → Item → Option Item
  | [], change => change
  | key :: keys, change => alter key (enter dots (within dots keys change))

/-- The table with a value under a key that has none. Only a key with dots may add to a table that
came about through dots, and it may add to no other. -/
def insertNew (withDots : Bool) (key : String) (v : Value) : Item → Option Item
  | table origin entries =>
    if decide (origin = .dots) = withDots && (StringMap.findIn? key entries).isNone then
      some (.table origin (StringMap.insertEntry key (.value v) entries))
    else none
  | _ => none

/-- The table with a value at the end of a path. -/
def insert (path : Path) (v : Value) : Item → Option Item :=
  within true path.parents (insertNew (!path.parents.isEmpty) path.last v)

/-- The table with the table of a header at the end of a path. -/
def openTable (path : Path) : Item → Option Item :=
  within false path.parents <| alter path.last fun
    | none => some (.table .header [])
    | some (table .passage entries) => some (.table .header entries)
    | some _ => none

/-- The table with one more table at the end of a path. -/
def appendTable (path : Path) : Item → Option Item :=
  within false path.parents <| alter path.last fun
    | none => some (.tables [root])
    | some (tables latestFirst) => some (.tables (root :: latestFirst))
    | some _ => none

mutual

/-- The value of an item to which nothing more is added. -/
def toValue : Item → Value
  | value v => v
  | table _ entries => .table (entryValues entries)
  | tables latestFirst => .array (itemValues latestFirst).reverse

/-- The values of some entries. -/
def entryValues : List (String × Item) → Table
  | [] => []
  | (key, item) :: entries => (key, item.toValue) :: entryValues entries

/-- The values of some items. -/
def itemValues : List Item → List Value
  | [] => []
  | item :: items => item.toValue :: itemValues items

end

/-- The members of a table to which nothing more is added. -/
def members : Item → Table
  | table _ entries => entryValues entries
  | _ => []

end Item

end Enrich.Toml
