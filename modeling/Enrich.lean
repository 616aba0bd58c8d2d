import Enrich.AttributeMatch.Basic
import Enrich.AttributeMatch.Settings
import Enrich.CharSet
import Enrich.CharSet.Edges
import Enrich.CharSet.Encoding
import Enrich.CodePoints
import Enrich.CommandLine.Arguments
import Enrich.CommandLine.Command
import Enrich.CommandLine.Run
import Enrich.Config.Basic
import Enrich.Config.Decode
import Enrich.Config.Load
import Enrich.Enhancer.Basic
import Enrich.Enhancer.Registry
import Enrich.Files.Basic
import Enrich.Json.Basic
import Enrich.Json.Scan
import Enrich.Json.Skip
import Enrich.Json.Writer
import Enrich.Main
import Enrich.Node
import Enrich.Node.Change
import Enrich.Node.Json
import Enrich.Number.Binary64
import Enrich.Number.Shortest
import Enrich.Ordered.Map
import Enrich.Ordered.Set
import Enrich.Pattern.Basic
import Enrich.Pattern.Bracket
import Enrich.Pattern.Meaning
import Enrich.Pattern.Parser
import Enrich.Pattern.Scan
import Enrich.Pipeline
import Enrich.Proofs.AttributeMatch.Additions
import Enrich.Proofs.AttributeMatch.Decoding
import Enrich.Proofs.AttributeMatch.Footprint
import Enrich.Proofs.AttributeMatch.Influence
import Enrich.Proofs.AttributeMatch.LineEnds
import Enrich.Proofs.AttributeMatch.Refusals
import Enrich.Proofs.AttributeMatch.Settings
import Enrich.Proofs.Checked
import Enrich.Proofs.CommandLine.Arguments
import Enrich.Proofs.CommandLine.Check
import Enrich.Proofs.CommandLine.Exit
import Enrich.Proofs.Config.FirstFlaw
import Enrich.Proofs.Config.GeneratedNames
import Enrich.Proofs.Config.Names
import Enrich.Proofs.Enhancer.BuiltIn
import Enrich.Proofs.Enhancer.Registry
import Enrich.Proofs.Except
import Enrich.Proofs.Json.Written
import Enrich.Proofs.Loop
import Enrich.Proofs.Node.Change
import Enrich.Proofs.Node.RoundTrip
import Enrich.Proofs.Ordered.Map
import Enrich.Proofs.Pattern.Counts
import Enrich.Proofs.Pattern.Reading
import Enrich.Proofs.Pipeline.Apply
import Enrich.Proofs.Pipeline.Build
import Enrich.Proofs.Pipeline.Growth
import Enrich.Proofs.Pipeline.Repeat
import Enrich.Proofs.Pipeline.Report
import Enrich.Proofs.Pipeline.Split
import Enrich.Proofs.Pipeline.Stages
import Enrich.Proofs.Properties.BadEscape
import Enrich.Proofs.Properties.Cursor
import Enrich.Proofs.Properties.Division
import Enrich.Proofs.Properties.Errors
import Enrich.Proofs.Properties.Escape
import Enrich.Proofs.Properties.InRange
import Enrich.Proofs.Properties.Joined
import Enrich.Proofs.Properties.LineBreak
import Enrich.Proofs.Properties.LogicalLines
import Enrich.Proofs.Properties.NaturalLines
import Enrich.Proofs.Properties.OneLine
import Enrich.Proofs.Properties.Parts
import Enrich.Proofs.Properties.Positions
import Enrich.Proofs.Properties.RoundTrip
import Enrich.Proofs.Properties.Runs
import Enrich.Proofs.Properties.UnitEscapes
import Enrich.Proofs.Regex.Following
import Enrich.Proofs.Regex.Matching
import Enrich.Proofs.Regex.Positions
import Enrich.Proofs.Rule.BadPattern
import Enrich.Proofs.Rule.Condition
import Enrich.Proofs.Rule.Joined
import Enrich.Proofs.Rule.Key
import Enrich.Proofs.Rule.Line
import Enrich.Proofs.Rule.Opposite
import Enrich.Proofs.Rule.Plain
import Enrich.Proofs.Rule.RuleSet
import Enrich.Proofs.Splits
import Enrich.Proofs.Template.BlankText
import Enrich.Proofs.Template.Filling
import Enrich.Proofs.Template.Generated
import Enrich.Proofs.Template.Reading
import Enrich.Proofs.Template.Seam
import Enrich.Proofs.Text.Lines
import Enrich.Proofs.Text.ReportLines
import Enrich.Proofs.Text.Utf16
import Enrich.Properties.Entry
import Enrich.Properties.Escape
import Enrich.Properties.LogicalLine
import Enrich.Regex.Basic
import Enrich.Regex.Form
import Enrich.Regex.Matching
import Enrich.Regex.Positions
import Enrich.Regex.Size
import Enrich.Report
import Enrich.Rule.Condition
import Enrich.Rule.Line
import Enrich.Rule.RuleSet
import Enrich.Template.Generator
import Enrich.Template.Placeholder
import Enrich.Text.Blank
import Enrich.Text.Cut
import Enrich.Text.Lines
import Enrich.Text.Quoted
import Enrich.Text.Scalar
import Enrich.Text.Terminal
import Enrich.Toml.Basic
import Enrich.Toml.Datetime
import Enrich.Toml.Parser
import Enrich.Toml.Scalar
import Enrich.Toml.Scan
import Enrich.Toml.Tree
import Enrich.Unicode.Added
import Enrich.Unicode.Age
import Enrich.Unicode.CaseFolding
import Enrich.Unicode.Category
import Enrich.Unicode.Property
import Enrich.Unicode.Query
import Enrich.Unicode.Script
import Enrich.Unicode.Segmentation
