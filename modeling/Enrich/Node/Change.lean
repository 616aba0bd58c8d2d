import Enrich.Node

/-!
# Changes of a node

What is different between two states of a node when attributes and tags have only been added or
replaced, one change for each attribute and each tag.
-/

namespace Enrich

/-- A change of one attribute or tag. -/
inductive Change where
  | replaced (key value old : String)
  | added (key value : String)
  | tagged (tag : String)
  deriving DecidableEq, Repr

/-- The change of an attribute that has a value now, if it is one. -/
def Change.ofAttribute? (before : Attributes) (key value : String) : Option Change :=
  match before.find? key with
  | none => some (.added key value)
  | some old => if old = value then none else some (.replaced key value old)

/-- The node with a change made. -/
def Change.apply (n : Node) : Change → Node
  | replaced key value _ | added key value => n.withAttribute key value
  | tagged tag => n.withTag tag

/-- The changes of the attributes, in the order of their keys, and then of the tags. -/
def Node.changes (before after : Node) : List Change :=
  (after.attributes.entries.filterMap fun (key, value) =>
    Change.ofAttribute? before.attributes key value) ++
  (after.tags.newIn before.tags).map .tagged

end Enrich
