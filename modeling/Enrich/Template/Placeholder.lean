import Enrich.Ordered.Map

/-!
# Placeholders

A template is text with holes: `$` and a name in braces. Filling a template replaces each hole by
the value under its name, or by nothing; values are never searched for holes.
-/

namespace Enrich.Template

/-- A part of a template. -/
inductive Piece where
  | char (c : Char)
  | hole (name : String)
  deriving DecidableEq, Repr

/-- The pieces of a template. Inside an opening, `opened` holds the name read so far, latest
character first; an opening without a name or without an end is plain text. -/
def piecesFrom : (opened : Option (List Char)) → List Char → List Piece
  | none, [] => []
  | none, '$' :: '{' :: rest => piecesFrom (some []) rest
  | none, c :: rest => .char c :: piecesFrom none rest
  | some name, [] => .char '$' :: .char '{' :: name.reverse.map .char
  | some name, '}' :: rest =>
    if name.isEmpty then .char '$' :: .char '{' :: .char '}' :: piecesFrom none rest
    else .hole (String.ofList name.reverse) :: piecesFrom none rest
  | some name, c :: rest => piecesFrom (some (c :: name)) rest

/-- The pieces of a template. -/
def pieces (template : String) : List Piece :=
  piecesFrom none template.toList

/-- The names of the holes of a template. -/
def holes (template : String) : List String :=
  (pieces template).filterMap fun
    | .char _ => none
    | .hole name => some name

/-- The text that a piece turns into. -/
def Piece.fill (values : StringMap String) : Piece → List Char
  | char c => [c]
  | hole name => ((values.find? name).getD "").toList

/-- The template with every hole filled. -/
def fill (values : StringMap String) (template : String) : String :=
  String.ofList ((pieces template).flatMap (Piece.fill values))

end Enrich.Template
