import Enrich.Text.Blank
import Enrich.Toml.Basic
import Std.Data.TreeSet

/-!
# Configs

A config lists the enhancers that are applied to every node, in order. Each has a display name: its
own, or its provider and its position. A valid config has the supported version, names a provider
in every entry and shows no display name twice.
-/

namespace Enrich

namespace Config

/-- The version of configs that is supported. -/
def supportedVersion : String := "1.0"

/-- An enhancer to apply. -/
structure Entry where
  provider : String
  name : Option String := none
  enabled : Bool := true
  settings : Toml.Table := []

/-- The name under which an entry is shown, given how many entries come before it. -/
def Entry.displayName (index : Nat) (e : Entry) : String :=
  e.name.getD (e.provider ++ "#" ++ toString (index + 1))

end Config

/-- The enhancers to apply, in order, and the version of the format they are written in. -/
structure Config where
  version : String := Config.supportedVersion
  entries : List Config.Entry := []

namespace Config

/-- The display names of the entries. -/
def displayNames (c : Config) : List String :=
  c.entries.mapIdx Entry.displayName

/-- Why a config is not valid. -/
inductive Flaw where
  | unsupportedVersion (found : String)
  | missingProvider (position : Nat)
  | duplicateName (name : String)
  deriving DecidableEq, Repr

/-- The wording of a flaw. -/
def Flaw.message : Flaw → String
  | unsupportedVersion found =>
    "Unsupported config version " ++ found ++ ", expected " ++ supportedVersion
  | missingProvider position => "Enhancer #" ++ toString position ++ " has an empty provider name"
  | duplicateName name => "Enhancer '" ++ name ++ "' is defined more than once"

/-- The first flaw of some entries, given the display names of the entries before them. -/
def firstFlaw? (seen : Std.TreeSet String) (index : Nat) : List Entry → Option Flaw
  | [] => none
  | e :: entries =>
    let name := e.displayName index
    if Text.allBlank e.provider then some (.missingProvider (index + 1))
    else if seen.contains name then some (.duplicateName name)
    else firstFlaw? (seen.insert name) (index + 1) entries

/-- The first flaw of a config; a wrong version comes before all others. -/
def flaw? (c : Config) : Option Flaw :=
  if c.version ≠ supportedVersion then some (.unsupportedVersion c.version)
  else firstFlaw? ∅ 0 c.entries

end Config

end Enrich
