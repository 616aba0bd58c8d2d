import Enrich.Json.Skip
import Enrich.Json.Writer
import Enrich.Node

/-!
# Nodes as JSON

The JSON form of nodes. A node is written as an object; it is read from an object, of which other
members are passed over, or from an array of its parts in order. Only the name has to be there.
-/

namespace Enrich

/-- The object of attributes. -/
def Attributes.toJson (attributes : Attributes) : Json :=
  .obj (attributes.entries.map fun (name, value) => (name, .str value))

/-- The array of tags. -/
def StringSet.toJson (tags : StringSet) : Json :=
  .arr (tags.toList.map .str)

namespace Node

/-- The object of a node. -/
def toJson (n : Node) : Json :=
  .obj [("name", .str n.name), ("attributes", n.attributes.toJson), ("tags", n.tags.toJson)]

/-- The text of some nodes, one item a line. -/
def write (nodes : List Node) : String :=
  (Json.arr (nodes.map toJson)).toPretty

namespace Reader

open Json (Fault Scanned)

/-- The fault of a value of another type than wanted. Strings and numbers have to be right first. -/
def wrongType (text : List Char) : Fault :=
  match text with
  | '[' :: _ | '\x7b' :: _ => .mismatch
  | text =>
    match Json.scanScalar text with
    | .error e => e
    | .ok _ => .mismatch

def string (text : List Char) : Except Fault (Scanned String) :=
  match Json.skip text with
  | '"' :: rest => Json.scanString rest
  | text => .error (wrongType text)

/-- The items of an array up to its end. -/
def items {α : Type} (item : List Char → Except Fault (Scanned α)) :
    (fuel : Nat) → (first : Bool) → List Char → Except Fault (Scanned (List α))
  | 0, _, _ => .error .unfinished
  | fuel + 1, first, text => do
    match ← Json.nextItem? first text with
    | none => pure ([], text)
    | some text =>
      let (x, rest) ← item text
      let (xs, rest) ← items item fuel false rest
      pure (x :: xs, rest)

def array {α : Type} (item : List Char → Except Fault (Scanned α)) (text : List Char) :
    Except Fault (Scanned (List α)) :=
  match Json.skip text with
  | '[' :: rest => do
    let (xs, rest) ← items item (rest.length + 1) true rest
    pure (xs, ← Json.scanEnd ']' rest)
  | text => .error (wrongType text)

/-- The members of an object of strings up to its end. -/
def stringMembers : (fuel : Nat) → (first : Bool) → List Char →
    Except Fault (Scanned (List (String × String)))
  | 0, _, _ => .error .unfinished
  | fuel + 1, first, text => do
    match ← Json.nextMember? first text with
    | none => pure ([], text)
    | some (name, rest) =>
      let (value, rest) ← string (← Json.scanColon rest)
      let (members, rest) ← stringMembers fuel false rest
      pure ((name, value) :: members, rest)

/-- Attributes: an object of strings. Of two members with one name the later counts. -/
def attributes (text : List Char) : Except Fault (Scanned Attributes) :=
  match Json.skip text with
  | '\x7b' :: rest => do
    let (members, rest) ← stringMembers (rest.length + 1) true rest
    pure (StringMap.ofList members, ← Json.scanEnd '\x7d' rest)
  | text => .error (wrongType text)

/-- Tags: an array of strings. -/
def tags (text : List Char) : Except Fault (Scanned StringSet) := do
  let (xs, rest) ← array string text
  pure (StringSet.ofList xs, rest)

/-- The members of a node that have been read. -/
structure Found where
  name : Option String := none
  attributes : Option Attributes := none
  tags : Option StringSet := none

/-- The node that the members make. -/
def Found.node? (found : Found) : Except Fault Node :=
  match found.name with
  | none => .error .mismatch
  | some name => .ok ⟨name, found.attributes.getD ∅, found.tags.getD ∅⟩

/-- The members of a node up to their end. No member of a node may stand twice. -/
def nodeMembers (found : Found) : (fuel : Nat) → (first : Bool) → List Char →
    Except Fault (Scanned Node)
  | 0, _, _ => .error .unfinished
  | fuel + 1, first, text => do
    match ← Json.nextMember? first text with
    | none => pure (← found.node?, text)
    | some (member, rest) =>
      if member = "name" then
        if found.name.isSome then .error .mismatch
        else
          let (name, rest) ← string (← Json.scanColon rest)
          nodeMembers { found with name := some name } fuel false rest
      else if member = "attributes" then
        if found.attributes.isSome then .error .mismatch
        else
          let (attributes, rest) ← attributes (← Json.scanColon rest)
          nodeMembers { found with attributes := some attributes } fuel false rest
      else if member = "tags" then
        if found.tags.isSome then .error .mismatch
        else
          let (tags, rest) ← tags (← Json.scanColon rest)
          nodeMembers { found with tags := some tags } fuel false rest
      else nodeMembers found fuel false (← Json.skipValue (← Json.scanColon rest))

/-- The parts of a node in order, from behind the opening bracket; parts at the end may be
missing. -/
def nodeParts (text : List Char) : Except Fault (Scanned Node) := do
  match ← Json.nextItem? true text with
  | none => .error .mismatch
  | some text =>
    let (name, rest) ← string text
    match ← Json.nextItem? false rest with
    | none => pure (⟨name, ∅, ∅⟩, rest)
    | some text =>
      let (attributes, rest) ← attributes text
      match ← Json.nextItem? false rest with
      | none => pure (⟨name, attributes, ∅⟩, rest)
      | some text =>
        let (tags, rest) ← tags text
        pure (⟨name, attributes, tags⟩, rest)

def node (text : List Char) : Except Fault (Scanned Node) :=
  match Json.skip text with
  | '\x7b' :: rest => do
    let (n, rest) ← nodeMembers {} (rest.length + 1) true rest
    pure (n, ← Json.scanEnd '\x7d' rest)
  | '[' :: rest => do
    let (n, rest) ← nodeParts rest
    pure (n, ← Json.scanEnd ']' rest)
  | text => .error (wrongType text)

end Reader

/-- The nodes that a text writes: an array of nodes and nothing behind it. -/
def read (text : String) : Except Json.Fault (List Node) := do
  let (nodes, rest) ← Reader.array Reader.node text.toList
  if (Json.skip rest).isEmpty then pure nodes else .error .malformed

end Node

end Enrich
