import Enrich.CharSet.Encoding
import Enrich.Regex.Basic

/-!
# Normal form of a regular expression

The form in which an expression is laid out as an automaton. Sequences and alternations are flat,
neighbouring characters are one literal, an alternation of characters or of classes is one class,
and what all branches of an alternation start with stands in front of it.
-/

namespace Enrich.Regex

/-- A regular expression in normal form. -/
inductive Form where
  | empty
  | literal (codes : List Nat)
  | chars (es : Edges)
  | look (a : Assertion)
  | capture (body : Form)
  | rep (body : Form) (min : Nat) (more : Option Nat)
  | concat (items : List Form)
  | alternation (branches : List Form)
  deriving BEq

namespace Form

/-- The form of a set of characters. -/
def ofEdges (es : Edges) : Form :=
  match es with
  | [lo, hi] => if hi = lo + 1 then literal [lo] else chars [lo, hi]
  | es => chars es

/-- The parts that stand one after the other. -/
def items : Form → List Form
  | empty => []
  | concat items => items
  | form => [form]

/-- The parts that stand beside each other. -/
def branches : Form → List Form
  | alternation branches => branches
  | form => [form]

/-- Puts an item in front of others. Two literals become one. -/
def consItem (item : Form) (items : List Form) : List Form :=
  match item, items with
  | literal a, literal b :: rest => literal (a ++ b) :: rest
  | item, items => item :: items

/-- The form of some items one after the other. -/
def ofItems : List Form → Form
  | [] => empty
  | [item] => item
  | items => concat items

/-- One form after another. -/
def append (a b : Form) : Form :=
  ofItems (a.items.foldr consItem b.items)

/-- The character that a form stands for, if that is one character in itself. -/
def single? : Form → Option Nat
  | literal [c] => some c
  | _ => none

/-- The edges of a form that is a class. -/
def edges? : Form → Option Edges
  | chars es => some es
  | _ => none

/-- The class that an alternation is, if its branches are all characters or all classes. -/
def merged? (branches : List Form) : Option Form :=
  match branches.mapM single? with
  | some codes => some (ofEdges (.unionAll (codes.map .single)))
  | none => (branches.mapM edges?).map fun sets => ofEdges (.unionAll sets)

mutual

/-- Whether a form captures. -/
def hasCapture : Form → Bool
  | capture _ => true
  | rep body _ _ => body.hasCapture
  | concat items => anyCapture items
  | alternation branches => anyCapture branches
  | empty | literal _ | chars _ | look _ => false

/-- Whether one of the forms captures. -/
def anyCapture : List Form → Bool
  | [] => false
  | form :: forms => form.hasCapture || anyCapture forms

end

/-- The number of items with which two sequences start alike. Captures are never alike. -/
def commonLength : List Form → List Form → Nat
  | a :: as, b :: bs => if a == b && !a.hasCapture then commonLength as bs + 1 else 0
  | _, _ => 0

/-- The items of a form with two items or more. -/
def sequence? : Form → Option (List Form)
  | concat items => some items
  | _ => none

/-- An alternation of two branches or more, as one class where it is one. -/
def alternate (forms : List Form) : Form :=
  let branches := forms.flatMap branches
  (merged? branches).getD (alternation branches)

/-- An alternation with the items that all branches start with in front of it. -/
def factored (forms : List Form) : Form :=
  let branches := forms.flatMap branches
  match merged? branches, branches.mapM sequence? with
  | none, some (first :: rest) =>
    let common := rest.foldl (fun n items => Nat.min n (commonLength first items)) first.length
    if common = 0 then alternation branches
    else
      (ofItems (first.take common)).append
        (alternate ((first :: rest).map fun items => ofItems (items.drop common)))
  | some form, _ => form
  | none, _ => alternation branches

end Form

/-- The form of some branches beside each other. -/
def Form.ofBranches : List Form → Form
  | [branch] => branch
  | branches => .factored branches

/-- The normal forms of the branches of an expression. An alternation in parentheses is one
branch. -/
def branchForms : Regex → List Form
  | empty => [.empty]
  | set s => [.ofEdges s.edges]
  | look a => [.look a]
  | seq a b => [(Form.ofBranches a.branchForms).append (.ofBranches b.branchForms)]
  | alt a b => .ofBranches a.branchForms :: b.branchForms
  | group captures a =>
    [if captures then .capture (.ofBranches a.branchForms) else .ofBranches a.branchForms]
  | rep a min more => [.rep (.ofBranches a.branchForms) min more]

/-- The normal form of an expression. -/
def form (r : Regex) : Form :=
  .ofBranches r.branchForms

end Enrich.Regex
