import Enrich.Ordered.Set
import Enrich.Properties.Entry
import Enrich.Template.Placeholder
import Enrich.Text.Blank

/-!
# Generated attributes and tags

What is added to a node: attributes written as entries and tags written as a list between commas.
Keys are taken as they are; values and tags may be templates, filled from the attributes of a node.
-/

namespace Enrich.Template

/-- The attributes to add, their values not yet filled. -/
structure AttributeTemplates where
  entries : StringMap String
  deriving DecidableEq

namespace AttributeTemplates

/-- The templates of a text. Of two entries with one key the later counts, and a text of blanks has
no entries. -/
def parse : Option String → Except Properties.ParseError AttributeTemplates
  | none => .ok ⟨∅⟩
  | some text =>
    if Text.allBlank text then .ok ⟨∅⟩
    else (Properties.parse text).map fun entries => ⟨StringMap.ofList entries⟩

/-- The attributes that the templates give, filled from `attributes` if `substitute`. -/
def render (t : AttributeTemplates) (substitute : Bool) (attributes : StringMap String) :
    StringMap String :=
  if substitute then t.entries.mapValues (fill attributes) else t.entries

end AttributeTemplates

/-- The tags to add, not yet filled. -/
structure TagTemplates where
  tokens : List String
  deriving DecidableEq, Repr

namespace TagTemplates

/-- The templates of a text: what stands between commas, without the blanks around it. -/
def parse (text : Option String) : TagTemplates :=
  ⟨((text.toList.flatMap fun t => t.toList.splitOn ',').map
    fun piece => Text.trim (String.ofList piece)).filter (· ≠ "")⟩

/-- The tags that the templates give, filled from `attributes` if `substitute`. A template that
comes out empty gives no tag. -/
def render (t : TagTemplates) (substitute : Bool) (attributes : StringMap String) : StringSet :=
  StringSet.ofList
    ((t.tokens.map fun token => if substitute then fill attributes token else token).filter
      (· ≠ ""))

end TagTemplates

end Enrich.Template
