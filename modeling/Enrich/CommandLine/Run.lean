import Enrich.CommandLine.Arguments
import Enrich.Node.Json
import Enrich.Report
import Enrich.Text.Terminal

/-!
# Running commands

What a run of the program prints and with which code it ends: 0 if all went well, 1 if something
could not be read or built, and 2 if the arguments make no command. A run that does not end with 0
prints nothing but an error.
-/

namespace Enrich.CommandLine

/-- How a run ends. -/
structure Outcome where
  code : Nat
  output : String
  /-- Warnings, each with a line end, or the line of an error. -/
  errors : String
  deriving DecidableEq, Repr

/-- Why a command cannot be carried out. -/
inductive Failure where
  | configNotLoaded (path : String) (cause : Config.LoadError)
  | configInvalid (path : String) (cause : Pipeline.BuildError)
  | nodesNotRead (path : String)
  | nodesMalformed (path : String) (cause : Json.Fault)
  | nodesNotEnhanced (cause : EnhancerError)
  | textNotRead (path : String)
  | rulesInvalid (cause : AttributeMatch.BuildError)

/-- The wording of a failure. -/
def Failure.message : Failure → String
  | configNotLoaded path _ => "Failed to load config '" ++ path ++ "'"
  | configInvalid path _ => "Invalid config '" ++ path ++ "'"
  | nodesNotRead path => "Failed to read nodes from '" ++ path ++ "'"
  | nodesMalformed path _ => "'" ++ path ++ "' is not a JSON array of nodes"
  | nodesNotEnhanced _ => "Failed to apply enhancers"
  | textNotRead path => "Failed to read '" ++ path ++ "'"
  | rulesInvalid _ => "Invalid rule configuration"

/-- What a command prints if it can be carried out: its output and its warnings. -/
structure Printed where
  output : String
  warnings : String := ""
  deriving DecidableEq, Repr

/-- The config at a path and its pipeline. -/
def loadPipeline (files : Files) (path : String) : Except Failure (Config × Pipeline) := do
  let config ← (Config.load files path).mapError (.configNotLoaded path)
  let pipeline ← (Pipeline.build .builtIn config).mapError (.configInvalid path)
  pure (config, pipeline)

/-- The nodes in the file at a path. -/
def readNodes (files : Files) (path : String) : Except Failure (List Node) :=
  match (files path).text? with
  | none => .error (.nodesNotRead path)
  | some text => (Node.read text).mapError (.nodesMalformed path)

/-- A text, or that of the file it names. -/
def textOf (files : Files) (text : String) : Except Failure String :=
  match namedFile? text with
  | none => .ok text
  | some path =>
    match (files path).text? with
    | none => .error (.textNotRead path)
    | some text => .ok text

/-- The text of nodes in a format, after a pipeline. -/
def written (format : Format) (before after : List Node) (stats : Pipeline.Stats) : String :=
  match format with
  | .json => Node.write after ++ "\n"
  | .human => Report.unlines (Report.nodes before after stats)

/-- Applies the pipeline of a config to the nodes of a file. -/
def apply (files : Files) (nodesPath configPath project : String) (format : Format) :
    Except Failure Printed := do
  let (_, pipeline) ← loadPipeline files configPath
  let nodes ← readNodes files nodesPath
  let (after, result) := pipeline.apply project nodes
  let stats ← result.mapError .nodesNotEnhanced
  pure ⟨written format nodes after stats, ""⟩

/-- Tries rules on one node. -/
def check (files : Files) (trial : Trial) : Except Failure Printed := do
  let rules ← textOf files trial.rules
  let add ← trial.add.mapM (textOf files)
  let m ← (AttributeMatch.ofSettings ⟨rules, add, trial.tags, trial.substitute⟩).mapError
    .rulesInvalid
  let before : Node := { name := "check", attributes := StringMap.ofList trial.attributes }
  let (after, outcome) := m.enhance before
  let malformed := m.rules.malformedLines
  pure ⟨Report.unlines (Report.tried before after outcome),
    if malformed.isEmpty then "" else Report.unlines (Report.malformedLines rules malformed)⟩

/-- Builds the pipeline of a config. -/
def validate (files : Files) (path : String) : Except Failure Printed := do
  let (config, pipeline) ← loadPipeline files path
  pure ⟨Report.unlines (Report.config path config pipeline), ""⟩

/-- How the program is used. -/
def usage : String :=
  Report.unlines
    ["Add attributes and tags to nodes whose attributes match a set of rules",
      "",
      "  apply NODES [--config PATH] [--project NAME] [--output human|json]",
      "  check --rules TEXT [--attr KEY=VALUE]... [--add TEXT] [--tags TEXT] [--substitute]",
      "  validate [--config PATH]"]

/-- What a command prints, if it can be carried out. -/
def Command.run (files : Files) : Command → Except Failure Printed
  | .apply nodes config project format => CommandLine.apply files nodes config project format
  | .check trial => CommandLine.check files trial
  | .validate config => CommandLine.validate files config

/-- The first line of a text. -/
def firstLine (text : String) : String :=
  (Text.reportLines text).head?.getD ""

/-- How the run of a command ends. -/
def Command.outcome (files : Files) (command : Command) : Outcome :=
  match command.run files with
  | .ok printed => ⟨0, printed.output, printed.warnings⟩
  | .error failure => ⟨1, "", firstLine ("Error: " ++ failure.message)⟩

/-- What an error about arguments ends with, for a terminal. -/
def helpHint : String :=
  "\n\nFor more information, try '\x1B[1m--help\x1B[0m'.\n"

/-- How a run ends whose arguments are at fault: with what a terminal would show of the error. Line
ends in a message that the wording leaves open are not shown. -/
def Misuse.outcome (misuse : Misuse) : Outcome :=
  let shown := misuse.message?.map fun message =>
    firstLine (Text.seen ("error: " ++ message ++ helpHint))
  ⟨2, "", shown.getD ""⟩

/-- How a run with some arguments ends. -/
def run (files : Files) (arguments : List String) : Outcome :=
  match parse arguments with
  | .ok command => command.outcome files
  | .error .help => ⟨0, usage, ""⟩
  | .error (.misuse cause) => cause.outcome

end Enrich.CommandLine
