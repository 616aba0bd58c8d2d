import Enrich.Toml.Scalar
import Enrich.Toml.Scan
import Enrich.Toml.Tree

/-!
# Reading TOML

The table that a TOML document writes. A document is a row of statements: headers, which name the
table that follows, and keys with values. Within an array or a table in braces, blanks, line ends
and comments may stand between all parts.
-/

namespace Enrich.Toml

/-- How deep arrays and tables in braces may be nested, and how many keys a path may have. -/
def maxDepth : Nat := 80

/-- The path at the front of a text, of at most `room` keys with dots between them. -/
def scanPath? : (room : Nat) → List Char → Option (Path × List Char)
  | 0, _ => none
  | room + 1, text => do
    let (key, rest) ← scanKey? text
    match skipSpaces rest with
    | '.' :: rest =>
      let (path, rest) ← scanPath? room (skipSpaces rest)
      pure (⟨key :: path.parents, path.last⟩, rest)
    | rest => pure (⟨[], key⟩, rest)

mutual

/-- The value at the front of a text, with `depth` more levels of nesting allowed. -/
def scanValue? : (fuel depth : Nat) → List Char → Option (Value × List Char)
  | 0, _, _ => none
  | fuel + 1, depth, text =>
    match text with
    | '"' :: _ | '\'' :: _ => (scanString? text).map fun (s, rest) => (.string s, rest)
    | '[' :: rest =>
      if depth = 0 then none else scanItems? fuel (depth - 1) [] (skipBlank false rest)
    | '\x7b' :: rest =>
      if depth = 0 then none else scanMembers? fuel (depth - 1) .root (skipBlank false rest)
    | text => scanScalar text

/-- The array whose first items have been read, latest first, up to its end. -/
def scanItems? : (fuel depth : Nat) → (items : List Value) → List Char →
    Option (Value × List Char)
  | 0, _, _, _ => none
  | fuel + 1, depth, items, text =>
    match text with
    | ']' :: rest => some (.array items.reverse, rest)
    | text =>
      match scanValue? fuel depth text with
      | none => none
      | some (item, rest) =>
        match skipBlank false rest with
        | ',' :: rest => scanItems? fuel depth (item :: items) (skipBlank false rest)
        | ']' :: rest => some (.array (item :: items).reverse, rest)
        | _ => none

/-- The table in braces of which some members have been read, up to its end. -/
def scanMembers? : (fuel depth : Nat) → (table : Item) → List Char → Option (Value × List Char)
  | 0, _, _, _ => none
  | fuel + 1, depth, table, text =>
    match text with
    | '\x7d' :: rest => some (table.toValue, rest)
    | text =>
      match scanPath? maxDepth text with
      | none => none
      | some (path, rest) =>
        match skipBlank false rest with
        | '=' :: rest =>
          match scanValue? fuel depth (skipBlank false rest) with
          | none => none
          | some (v, rest) =>
            match table.insert path v with
            | none => none
            | some table =>
              match skipBlank false rest with
              | ',' :: rest => scanMembers? fuel depth table (skipBlank false rest)
              | '\x7d' :: rest => some (table.toValue, rest)
              | _ => none
        | _ => none

end

/-- A statement of a document. -/
inductive Statement where
  /-- What follows belongs to the table at a path. -/
  | header (path : Path)
  /-- What follows belongs to one more table at a path. -/
  | arrayHeader (path : Path)
  | pair (path : Path) (v : Value)

/-- The statement at the front of a text of at most `fuel` characters. -/
def scanStatement? (fuel : Nat) : List Char → Option (Statement × List Char)
  | '[' :: '[' :: rest => do
    let (path, rest) ← scanPath? maxDepth (skipSpaces rest)
    match skipSpaces rest with
    | ']' :: ']' :: rest => pure (.arrayHeader path, rest)
    | _ => none
  | '[' :: rest => do
    let (path, rest) ← scanPath? maxDepth (skipSpaces rest)
    match skipSpaces rest with
    | ']' :: rest => pure (.header path, rest)
    | _ => none
  | text => do
    let (path, rest) ← scanPath? maxDepth text
    match skipSpaces rest with
    | '=' :: rest =>
      let (v, rest) ← scanValue? (2 * fuel + 2) maxDepth (skipSpaces rest)
      pure (.pair path v, rest)
    | _ => none

/-- A document of which some statements have been read. -/
structure Document where
  table : Item
  /-- The keys that lead to the table of the last header. -/
  current : List String

namespace Document

/-- The document without statements. -/
def empty : Document := ⟨.root, []⟩

/-- The document with one more statement, if it may be added. -/
def add? (doc : Document) : Statement → Option Document
  | .header path => (doc.table.openTable path).map (⟨·, path.parents ++ [path.last]⟩)
  | .arrayHeader path => (doc.table.appendTable path).map (⟨·, path.parents ++ [path.last]⟩)
  | .pair path v =>
    (Item.within false doc.current (Item.insert path v) doc.table).map (⟨·, doc.current⟩)

/-- The document with the statements of a text added. Each has a line of its own. -/
def addText? : (fuel : Nat) → Document → List Char → Option Document
  | 0, _, _ => none
  | fuel + 1, doc, text =>
    match skipBlank false text with
    | [] => some doc
    | text =>
      match scanStatement? fuel text with
      | none => none
      | some (statement, rest) =>
        match doc.add? statement with
        | none => none
        | some doc =>
          let rest := skipSpaces rest
          if atLineEnd rest then addText? fuel doc rest else none

end Document

/-- The table that a document writes, if it is one. A byte order mark at its front does not
count. -/
def parse? (text : String) : Option Table :=
  let chars :=
    match text.toList with
    | '\uFEFF' :: rest => rest
    | chars => chars
  (Document.empty.addText? (chars.length + 1) chars).map (·.table.members)

end Enrich.Toml
