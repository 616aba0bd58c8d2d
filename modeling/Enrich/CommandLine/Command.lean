/-!
# Commands

What the program can be told to do.
-/

namespace Enrich.CommandLine

/-- How nodes are written. -/
inductive Format where
  | human
  | json
  deriving DecidableEq, Repr

/-- The format of a name. -/
def Format.ofName? : String → Option Format
  | "human" => some human
  | "json" => some json
  | _ => none

/-- What to try on one node. Rules and attributes to add are texts, or name a file behind `@`. -/
structure Trial where
  rules : String
  attributes : List (String × String) := []
  add : Option String := none
  tags : Option String := none
  substitute : Bool := false
  deriving DecidableEq, Repr

/-- What to do. -/
inductive Command where
  /-- Applies the pipeline of a config to the nodes of a file. -/
  | apply (nodes config project : String) (format : Format)
  /-- Tries rules on one node. -/
  | check (trial : Trial)
  /-- Builds the pipeline of a config. -/
  | validate (config : String)
  deriving DecidableEq, Repr

/-- The path that a text names behind `@`. -/
def namedFile? (text : String) : Option String :=
  match text.toList with
  | '@' :: path => some (String.ofList path)
  | _ => none

/-- The files that a command may look at. -/
def Command.paths : Command → List String
  | apply nodes config _ _ => [config, nodes]
  | check trial => (trial.rules :: trial.add.toList).filterMap namedFile?
  | validate config => [config]

end Enrich.CommandLine
