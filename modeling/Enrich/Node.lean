import Enrich.Ordered.Map
import Enrich.Ordered.Set

/-!
# Nodes

A node has a name, attributes and tags. Both are kept in order, so nodes with the same name,
attributes and tags are equal.
-/

namespace Enrich

/-- Attributes of a node: values under names. -/
abbrev Attributes := StringMap String

/-- A named thing with attributes and tags. -/
structure Node where
  name : String
  attributes : Attributes := ∅
  tags : StringSet := ∅
  deriving DecidableEq

namespace Node

/-- The value of an attribute. -/
def attribute? (n : Node) (key : String) : Option String :=
  n.attributes.find? key

/-- The node with an attribute set. -/
def withAttribute (n : Node) (key value : String) : Node :=
  { n with attributes := n.attributes.insert key value }

/-- The node with one more tag. -/
def withTag (n : Node) (tag : String) : Node :=
  { n with tags := n.tags.insert tag }

/-- The node with further attributes, which replace those of the same name. -/
def mergeAttributes (n : Node) (attributes : Attributes) : Node :=
  { n with attributes := n.attributes.merge attributes }

/-- The node with further tags. -/
def addTags (n : Node) (tags : StringSet) : Node :=
  { n with tags := n.tags.union tags }

end Node

end Enrich
