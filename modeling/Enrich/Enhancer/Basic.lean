import Enrich.AttributeMatch.Basic

/-!
# Enhancers

An enhancer changes nodes, one at a time. The attribute match is the one that comes built in; it
never fails on a node. Others may fail, and what they changed before stays.
-/

namespace Enrich

/-- Why an enhancer cannot be made, or fails on a node. -/
inductive EnhancerError where
  | unknownProvider (provider : String)
  | build (provider : String) (cause : AttributeMatch.BuildError)
  | settings (cause : AttributeMatch.Settings.DecodeError)
  deriving Repr

/-- The wording of an error, if it has one of its own. -/
def EnhancerError.message? : EnhancerError → Option String
  | unknownProvider provider => some ("Unknown enhancer provider: " ++ provider)
  | build provider cause =>
    cause.message?.map fun message => "Enhancer error (" ++ provider ++ "): " ++ message
  | settings cause => some ("JSON error: " ++ cause.message)

/-- A step that changes a node for a project. -/
structure Enhancer where
  provider : String
  /-- The node afterwards, and the error that cut the change short, if there is one. -/
  update : (project : String) → Node → Node × Option EnhancerError

namespace AttributeMatch

/-- The name under which the attribute match is provided. -/
def provider : String := "attribute-match"

/-- The attribute match as an enhancer: the same for all projects, and it never fails. -/
def toEnhancer (m : AttributeMatch) : Enhancer :=
  ⟨provider, fun _ n => ((m.enhance n).1, none)⟩

/-- The attribute match that a JSON value describes. -/
def ofJson (j : Json) : Except EnhancerError AttributeMatch := do
  let settings ← (Settings.ofJson j).mapError .settings
  (ofSettings settings).mapError (.build provider)

end AttributeMatch

end Enrich
