import Enrich.Config.Decode
import Enrich.Files.Basic

/-!
# Loading configs

The config that a text or a file writes. A file is looked at only if it is not too large, and a
config is given only if it is valid.
-/

namespace Enrich.Config

/-- The most bytes that a config file may have. -/
def maxFileBytes : Nat := 1048576

/-- The path of the config file unless another is given. -/
def defaultPath : String := "nodematch.toml"

/-- Why no config is given. -/
inductive LoadError where
  | unreadable
  | notFound (path : String)
  | tooLarge (path : String) (size : Nat)
  /-- The text is no TOML, or its values have the wrong shape. -/
  | malformed
  | invalid (flaw : Flaw)
  deriving DecidableEq, Repr

/-- The wording of an error, if it has one of its own. -/
def LoadError.message? : LoadError → Option String
  | notFound path => some ("Config file not found at " ++ path)
  | tooLarge path size =>
    some ("Config file " ++ path ++ " is " ++ toString size ++ " bytes, max allowed is " ++
      toString maxFileBytes)
  | invalid flaw => some flaw.message
  | unreadable | malformed => none

/-- The valid config that a text writes. -/
def parse (text : String) : Except LoadError Config :=
  match (Toml.parse? text).bind ofTable? with
  | none => .error .malformed
  | some c =>
    match c.flaw? with
    | none => .ok c
    | some flaw => .error (.invalid flaw)

/-- The valid config that a file writes. -/
def load (files : Files) (path : String) : Except LoadError Config :=
  match files path with
  | .nothing => .error (.notFound path)
  | .unreadable => .error .unreadable
  | .file content =>
    if maxFileBytes < content.size then .error (.tooLarge path content.size)
    else
      match String.fromUTF8? content with
      | none => .error .unreadable
      | some text => parse text

end Enrich.Config
