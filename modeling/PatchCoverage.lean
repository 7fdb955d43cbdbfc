import PatchCoverage.Change.Ref
import PatchCoverage.Change.Source
import PatchCoverage.CommandLine.Arguments
import PatchCoverage.CommandLine.Check
import PatchCoverage.CommandLine.Command
import PatchCoverage.CommandLine.Files
import PatchCoverage.CommandLine.Outcome
import PatchCoverage.CommandLine.Program
import PatchCoverage.CommandLine.Request
import PatchCoverage.CommandLine.Suggest
import PatchCoverage.Config.Basic
import PatchCoverage.Config.Load
import PatchCoverage.Config.Override
import PatchCoverage.Config.Placeholder
import PatchCoverage.Config.Provider
import PatchCoverage.Config.Setting
import PatchCoverage.Config.Show
import PatchCoverage.Config.Validation
import PatchCoverage.Console.Action
import PatchCoverage.Console.Block
import PatchCoverage.Console.Emoji
import PatchCoverage.Console.Markup
import PatchCoverage.Console.Style
import PatchCoverage.Console.Table
import PatchCoverage.Console.Wrap
import PatchCoverage.Json.Basic
import PatchCoverage.Json.Printer
import PatchCoverage.Json.Reader
import PatchCoverage.Main
import PatchCoverage.Number.Binary64
import PatchCoverage.Number.Decimal
import PatchCoverage.Number.Literal
import PatchCoverage.Number.Rounding
import PatchCoverage.Proofs.Number.Rounding
import PatchCoverage.Proofs.Scoring.Join
import PatchCoverage.Publish.Files
import PatchCoverage.Publish.JsonReport
import PatchCoverage.Publish.Markdown
import PatchCoverage.Publish.StepOutput
import PatchCoverage.Publish.StepSummary
import PatchCoverage.Publish.Terminal
import PatchCoverage.Report.Basic
import PatchCoverage.Report.FromXml
import PatchCoverage.Scoring.Analysis
import PatchCoverage.Scoring.Basic
import PatchCoverage.Text.Blank
import PatchCoverage.Text.Cluster
import PatchCoverage.Text.CodePoints
import PatchCoverage.Text.Digit
import PatchCoverage.Text.HalfPair
import PatchCoverage.Text.LetterCase
import PatchCoverage.Text.Lines
import PatchCoverage.Text.Printable
import PatchCoverage.Text.Quoted
import PatchCoverage.Text.Utf8
import PatchCoverage.Text.Width
import PatchCoverage.Text.Word
import PatchCoverage.World.Basic
import PatchCoverage.World.Environment
import PatchCoverage.World.FileTree
import PatchCoverage.World.Limits
import PatchCoverage.World.PathName
import PatchCoverage.Xml.Charset
import PatchCoverage.Xml.Doctype
import PatchCoverage.Xml.Document
import PatchCoverage.Xml.Element
import PatchCoverage.Xml.Name
import PatchCoverage.Xml.Namespace
import PatchCoverage.Xml.Octets
import PatchCoverage.Xml.Reference
import PatchCoverage.Yaml.Calendar
import PatchCoverage.Yaml.Construction
import PatchCoverage.Yaml.Cursor
import PatchCoverage.Yaml.Document
import PatchCoverage.Yaml.Fault
import PatchCoverage.Yaml.Node
import PatchCoverage.Yaml.Printer
import PatchCoverage.Yaml.ScalarText
import PatchCoverage.Yaml.Tag
import PatchCoverage.Yaml.Token
import PatchCoverage.Yaml.Tokenization
import PatchCoverage.Yaml.Value
import PatchCoverage.Yaml.Written
import PatchCoverage.Proofs.Number.Value
import PatchCoverage.Proofs.Scoring.Exactness
import PatchCoverage.Proofs.CommandLine.ExitStatus
import PatchCoverage.Proofs.Publish.Agreement
import PatchCoverage.Proofs.Failure
import PatchCoverage.Proofs.Config.Paths
import PatchCoverage.Proofs.Yaml.Parts
import PatchCoverage.Proofs.Config.Layers
import PatchCoverage.Proofs.Config.Loading
import PatchCoverage.Proofs.Config.Override
import PatchCoverage.Proofs.CommandLine.Options
import PatchCoverage.Proofs.Text.Lines
import PatchCoverage.Proofs.Publish.CommandLines
import PatchCoverage.Proofs.Text.Utf8
import PatchCoverage.Proofs.Change.Sources
import PatchCoverage.Proofs.World.FileTree
import PatchCoverage.Proofs.Console.Markup
import PatchCoverage.Proofs.Publish.OutputFile
import PatchCoverage.Proofs.Publish.Printed
import PatchCoverage.Proofs.CommandLine.Modes
import PatchCoverage.Proofs.Console.Wrap
import PatchCoverage.Proofs.CommandLine.Publication
import PatchCoverage.Proofs.Number.Integer
import PatchCoverage.Proofs.Xml.Place
import PatchCoverage.Proofs.Report.Reading
import PatchCoverage.Proofs.Report.Alike
import PatchCoverage.Proofs.Report.Layout
import PatchCoverage.Proofs.Report.Kinds
import PatchCoverage.Proofs.Xml.Failures
import PatchCoverage.Proofs.World.Problems
import PatchCoverage.Proofs.Report.Failures
import PatchCoverage.Proofs.Change.Failures
import PatchCoverage.Proofs.CommandLine.Failures
import PatchCoverage.Proofs.Number.Monotone
import PatchCoverage.Proofs.Scoring.Monotone
import PatchCoverage.Proofs.Change.Refs
import PatchCoverage.Proofs.CommandLine.GitStart
import PatchCoverage.Proofs.CommandLine.Messages
import PatchCoverage.Proofs.CommandLine.ProblemMessages
import PatchCoverage.Proofs.Text.Blank
import PatchCoverage.Proofs.Text.Width
import PatchCoverage.Proofs.Console.Lines
import PatchCoverage.Proofs.Number.Characters
import PatchCoverage.Proofs.Console.Verbatim
import PatchCoverage.Proofs.Console.Notice
import PatchCoverage.Proofs.Config.Unloadable
import PatchCoverage.Proofs.Publish.Reportable
import PatchCoverage.Proofs.Scoring.Proportions
import PatchCoverage.Proofs.Config.Sessions
import PatchCoverage.Proofs.Scoring.SameSources
import PatchCoverage.Proofs.CommandLine.SameSources
import PatchCoverage.Proofs.Change.Range
import PatchCoverage.Proofs.Scoring.SourcePath
import PatchCoverage.Proofs.Text.LetterCase
import PatchCoverage.Proofs.World.Written
import PatchCoverage.Proofs.Yaml.Printer
import PatchCoverage.Proofs.Yaml.Given
import PatchCoverage.Proofs.Config.Placeholder
import PatchCoverage.Proofs.Config.ShownDocument
import PatchCoverage.Proofs.Config.Shown
import PatchCoverage.Proofs.Change.PathLines
import PatchCoverage.Proofs.Config.Expansion
import PatchCoverage.Proofs.Config.SinglePass
import PatchCoverage.Proofs.Config.ExpandedTexts
import PatchCoverage.Proofs.Publish.AddedText
import PatchCoverage.Proofs.Publish.FailedWrites
import PatchCoverage.Proofs.Publish.EveryEntry
import PatchCoverage.Proofs.Publish.JsonText
