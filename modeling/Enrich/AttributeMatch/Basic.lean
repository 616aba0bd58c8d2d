import Enrich.AttributeMatch.Settings
import Enrich.Rule.RuleSet
import Enrich.Template.Generator

/-!
# Attribute matches

An attribute match adds attributes and tags to the nodes whose attributes satisfy its rules. All
that is added is made from the attributes that the node had before.
-/

namespace Enrich

/-- Rules, and what is added to a node that satisfies them. -/
structure AttributeMatch where
  rules : RuleSet
  attributes : Template.AttributeTemplates
  tags : Template.TagTemplates
  substitute : Bool

namespace AttributeMatch

/-- Why settings make no attribute match. -/
inductive BuildError where
  | pattern (cause : PatternError)
  | properties (cause : Properties.ParseError)
  deriving DecidableEq, Repr

/-- The wording of an error, if it has one of its own. -/
def BuildError.message? : BuildError → Option String
  | pattern cause => cause.message?
  | properties cause => some cause.message

/-- The attribute match with some settings. An error in the rules comes before one in the
attributes. -/
def ofSettings (s : Settings) : Except BuildError AttributeMatch := do
  let rules ← (RuleSet.parse s.rules).mapError .pattern
  let attributes ← (Template.AttributeTemplates.parse s.add).mapError .properties
  pure ⟨rules, attributes, Template.TagTemplates.parse s.addTags, s.substitute⟩

/-- What an attribute match did to a node. -/
inductive Outcome where
  /-- The rules do not hold. -/
  | skipped
  /-- The rules hold and so many attributes and tags were set. -/
  | enriched (attributes tags : Nat)
  deriving DecidableEq, Repr

/-- Whether the rules hold for some attributes. -/
def evaluate (m : AttributeMatch) (attributes : Attributes) : Bool :=
  m.rules.matches attributes

/-- The attributes to add to a node with the given attributes. -/
def newAttributes (m : AttributeMatch) (attributes : Attributes) : Attributes :=
  m.attributes.render m.substitute attributes

/-- The tags to add to a node with the given attributes. -/
def newTags (m : AttributeMatch) (attributes : Attributes) : StringSet :=
  m.tags.render m.substitute attributes

/-- The node after the match, and what was done to it. -/
def enhance (m : AttributeMatch) (n : Node) : Node × Outcome :=
  if m.evaluate n.attributes then
    let attributes := m.newAttributes n.attributes
    let tags := m.newTags n.attributes
    ((n.mergeAttributes attributes).addTags tags, .enriched attributes.size tags.size)
  else (n, .skipped)

/-- The keys that the match asks for: those of its rules and, if placeholders are filled, their
names. -/
def reads (m : AttributeMatch) : List String :=
  m.rules.keys ++
    if m.substitute then
      (m.attributes.entries.entries.map Prod.snd ++ m.tags.tokens).flatMap Template.holes
    else []

/-- The keys of the attributes that the match adds. -/
def writes (m : AttributeMatch) : List String :=
  m.attributes.entries.keys

end AttributeMatch

end Enrich
