import Enrich.Config.Basic
import Enrich.Toml.Parser

/-!
# Reading configs

The config that a TOML table writes. Members with other names are passed over, but a whole number
among them may have no more than 128 bits; in the settings of an entry it may have no more than 64.
An entry may also be written as an array of its parts in order.
-/

namespace Enrich.Config

open Toml (Value Table)

mutual

/-- Whether all whole numbers in a value lie within bounds. -/
def allWithin (low high : Int) : Value → Bool
  | .integer i => low ≤ i && i ≤ high
  | .array items => itemsWithin low high items
  | .table members => membersWithin low high members
  | _ => true

/-- Whether all whole numbers in some values lie within bounds. -/
def itemsWithin (low high : Int) : List Value → Bool
  | [] => true
  | v :: items => allWithin low high v && itemsWithin low high items

/-- Whether all whole numbers in a table lie within bounds. -/
def membersWithin (low high : Int) : Table → Bool
  | [] => true
  | (_, v) :: members => allWithin low high v && membersWithin low high members

end

/-- Whether a value may be passed over. -/
def isIgnorable (v : Value) : Bool :=
  allWithin (-0x80000000000000000000000000000000) 0xFFFFFFFFFFFFFFFFFFFFFFFFFFFFFFFF v

mutual

/-- The value of a setting. A table that starts with the member of a date stands for the date. -/
def setting? : Value → Option Value
  | .integer i =>
    if -0x8000000000000000 ≤ i && i ≤ 0x7FFFFFFFFFFFFFFF then some (.integer i) else none
  | .array items => (settingItems? items).map .array
  | .table ((name, v) :: members) =>
    if name = Toml.datetimeMember then
      match v with
      | .string s => (Toml.Datetime.ofChars? s.toList).map .datetime
      | _ => none
    else
      match setting? v, settings? members with
      | some v, some members => some (.table ((name, v) :: members))
      | _, _ => none
  | v => some v

/-- The values of the items of a setting. -/
def settingItems? : List Value → Option (List Value)
  | [] => some []
  | v :: items =>
    match setting? v, settingItems? items with
    | some v, some items => some (v :: items)
    | _, _ => none

/-- The settings in a table. -/
def settings? : Table → Option Table
  | [] => some []
  | (name, v) :: members =>
    match setting? v, settings? members with
    | some v, some members => some ((name, v) :: members)
    | _, _ => none

end

/-- A text. -/
def text? : Value → Option String
  | .string s => some s
  | _ => none

/-- A flag. -/
def flag? : Value → Option Bool
  | .boolean b => some b
  | _ => none

/-- The settings of an entry: a table, or a date as a table with one member. -/
def settingsOf? : Value → Option Table
  | .table members => settings? members
  | .datetime d => some [(Toml.datetimeMember, .string d.text)]
  | _ => none

/-- What a value holds, or something else if it is missing. -/
def orElse {α : Type} (default : α) (read : Value → Option α) : Option Value → Option α
  | none => some default
  | some v => read v

/-- Whether the members with other names may be passed over. -/
def othersIgnorable (names : List String) (members : Table) : Bool :=
  members.all fun (name, v) => name ∈ names || isIgnorable v

/-- The entry with some parts, of which only the provider has to be there. -/
def entryOf? (provider name enabled settings : Option Value) : Option Entry := do
  let provider ← text? (← provider)
  let name ← orElse none (fun v => (text? v).map some) name
  let enabled ← orElse true flag? enabled
  let settings ← orElse [] settingsOf? settings
  pure ⟨provider, name, enabled, settings⟩

/-- The entry that a value holds. -/
def entry? : Value → Option Entry
  | .table members =>
    if othersIgnorable ["provider", "name", "enabled", "config"] members then
      entryOf? (Toml.member? "provider" members) (Toml.member? "name" members)
        (Toml.member? "enabled" members) (Toml.member? "config" members)
    else none
  | .array items => entryOf? items[0]? items[1]? items[2]? items[3]?
  | _ => none

/-- The entries that a value holds. -/
def entries? : Value → Option (List Entry)
  | .array items => items.mapM entry?
  | _ => none

/-- The config that a table writes. -/
def ofTable? (members : Table) : Option Config := do
  let version ← orElse supportedVersion text? (Toml.member? "version" members)
  let entries ← orElse [] entries? (Toml.member? "enhancers" members)
  if othersIgnorable ["version", "enhancers"] members then some ⟨version, entries⟩ else none

end Enrich.Config
