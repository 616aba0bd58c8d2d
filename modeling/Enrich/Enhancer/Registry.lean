import Enrich.Enhancer.Basic

/-!
# The registry of enhancers

Ways to make enhancers, by provider. A provider is registered at most once: registering it again
replaces what it had and puts it last.
-/

namespace Enrich

/-- A way to make an enhancer from its settings. -/
abbrev Factory := Json → Except EnhancerError Enhancer

/-- Factories by provider, in the order in which they were registered. -/
structure Registry where
  factories : List (String × Factory)

namespace Registry

/-- The registry without providers. -/
def empty : Registry := ⟨[]⟩

instance : EmptyCollection Registry := ⟨empty⟩
instance : Inhabited Registry := ⟨empty⟩

/-- The registry with a provider at its end, in place of an earlier registration. -/
def register (r : Registry) (provider : String) (factory : Factory) : Registry :=
  ⟨r.factories.filter (·.1 ≠ provider) ++ [(provider, factory)]⟩

/-- The registered providers, the latest registration last. -/
def providers (r : Registry) : List String :=
  r.factories.map Prod.fst

/-- Whether a provider is registered. -/
def contains (r : Registry) (provider : String) : Bool :=
  r.factories.any (·.1 == provider)

/-- The enhancer that a provider makes from settings. -/
def create (r : Registry) (provider : String) (settings : Json) :
    Except EnhancerError Enhancer :=
  match r.factories.find? (·.1 == provider) with
  | none => .error (.unknownProvider provider)
  | some (_, factory) => factory settings

/-- The registry with the attribute match. -/
def registerBuiltIn (r : Registry) : Registry :=
  r.register AttributeMatch.provider fun settings =>
    (AttributeMatch.ofJson settings).map AttributeMatch.toEnhancer

/-- The registry of all that comes built in. -/
def builtIn : Registry :=
  empty.registerBuiltIn

/-- The providers of a registry as one line of text. -/
def describe (r : Registry) : String :=
  "EnhancerRegistry \x7b providers: [" ++ ", ".intercalate (r.providers.map Text.quoted) ++ "] \x7d"

end Registry

end Enrich
