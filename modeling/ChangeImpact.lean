import ChangeImpact.Catalog.Basic
import ChangeImpact.Catalog.PathMatch
import ChangeImpact.Catalog.SourceFunction
import ChangeImpact.Channel.Collect
import ChangeImpact.Channel.Pipe
import ChangeImpact.Channel.Scope
import ChangeImpact.Channel.Script
import ChangeImpact.CommandLine.Arguments
import ChangeImpact.CommandLine.Run
import ChangeImpact.CommandLine.Target
import ChangeImpact.CommandLine.World
import ChangeImpact.Console.Basic
import ChangeImpact.Console.Colour
import ChangeImpact.Console.Handler
import ChangeImpact.Console.Layout
import ChangeImpact.Console.Markup
import ChangeImpact.Console.Style
import ChangeImpact.Console.StyledText
import ChangeImpact.Console.Terminal
import ChangeImpact.Console.Width
import ChangeImpact.Failure
import ChangeImpact.Files.Configuration
import ChangeImpact.Files.Discovery
import ChangeImpact.Files.Framework
import ChangeImpact.Files.Glob
import ChangeImpact.Files.Head
import ChangeImpact.Files.Path
import ChangeImpact.Files.Workspace
import ChangeImpact.Impact.Basic
import ChangeImpact.Impact.LabelSet
import ChangeImpact.Impact.PatchText
import ChangeImpact.Impact.Record
import ChangeImpact.Impact.Report
import ChangeImpact.Json.Reader
import ChangeImpact.Json.Value
import ChangeImpact.Json.Writer
import ChangeImpact.Literal.Basic
import ChangeImpact.Literal.Escape
import ChangeImpact.Literal.Evaluate
import ChangeImpact.Literal.Fault
import ChangeImpact.Literal.Grammar.Basic
import ChangeImpact.Literal.Grammar.Bracket
import ChangeImpact.Literal.Grammar.Call
import ChangeImpact.Literal.Grammar.Diagnosis
import ChangeImpact.Literal.Grammar.Expression
import ChangeImpact.Literal.Grammar.Lambda
import ChangeImpact.Literal.Grammar.Target
import ChangeImpact.Literal.Lexer
import ChangeImpact.Literal.Machine
import ChangeImpact.Literal.Node
import ChangeImpact.Literal.Numeral
import ChangeImpact.Literal.Parser
import ChangeImpact.Literal.Rule
import ChangeImpact.Literal.Template
import ChangeImpact.Literal.Token
import ChangeImpact.Main
import ChangeImpact.Number.Binary64
import ChangeImpact.Number.Numeral
import ChangeImpact.Patch.Basic
import ChangeImpact.Patch.File
import ChangeImpact.Patch.Header
import ChangeImpact.Patch.Parser
import ChangeImpact.Patch.Path
import ChangeImpact.Patch.Record
import ChangeImpact.Patch.Run
import ChangeImpact.Proofs.Catalog.Record
import ChangeImpact.Proofs.Channel.AllOrNothing
import ChangeImpact.Proofs.Channel.Delivery
import ChangeImpact.Proofs.Impact.ContextWidth
import ChangeImpact.Proofs.Impact.TouchedLines
import ChangeImpact.Proofs.Json.Completeness
import ChangeImpact.Proofs.Json.Grammar
import ChangeImpact.Proofs.Json.LongNumerals
import ChangeImpact.Proofs.Json.Number
import ChangeImpact.Proofs.Json.Soundness
import ChangeImpact.Proofs.Json.Writer
import ChangeImpact.Proofs.Json.Written
import ChangeImpact.Proofs.Patch.Cutting
import ChangeImpact.Proofs.Patch.Groups
import ChangeImpact.Proofs.Patch.Numbering
import ChangeImpact.Proofs.Repository.FirstParents
import ChangeImpact.Proofs.Repository.Ways
import ChangeImpact.Proofs.Text.Lines
import ChangeImpact.Proofs.Text.Utf8
import ChangeImpact.Proofs.Wire.Arrays
import ChangeImpact.Proofs.Wire.Brackets
import ChangeImpact.Proofs.Wire.Feeding
import ChangeImpact.Proofs.Wire.Readings
import ChangeImpact.Proofs.Wire.Refusals
import ChangeImpact.Proofs.Wire.RoundTrip
import ChangeImpact.Repository.Basic
import ChangeImpact.Repository.Diff
import ChangeImpact.Repository.Resolve
import ChangeImpact.Repository.Revision
import ChangeImpact.Session.Decode
import ChangeImpact.Settings.Basic
import ChangeImpact.Settings.CommandWords
import ChangeImpact.Text.Blank
import ChangeImpact.Text.Cased
import ChangeImpact.Text.CodePoint
import ChangeImpact.Text.CodeRange
import ChangeImpact.Text.DecimalDigit
import ChangeImpact.Text.HexDigit
import ChangeImpact.Text.Lines
import ChangeImpact.Text.LowerCase
import ChangeImpact.Text.NonEmptyString
import ChangeImpact.Text.Printable
import ChangeImpact.Text.Quoted
import ChangeImpact.Text.Utf8
import ChangeImpact.Text.Word
import ChangeImpact.Validation.Field
import ChangeImpact.Validation.Problem
import ChangeImpact.Wire.Batch
import ChangeImpact.Wire.Stream
import ChangeImpact.Proofs.Channel.Programs
import ChangeImpact.Proofs.Channel.Collecting
import ChangeImpact.Proofs.Channel.Cleanup
import ChangeImpact.Proofs.Channel.Scopes
import ChangeImpact.Proofs.CommandLine.Runs
import ChangeImpact.Proofs.CommandLine.Messages
import ChangeImpact.Proofs.CommandLine.Faults
import ChangeImpact.Proofs.CommandLine.Contract
import ChangeImpact.Proofs.Impact.Unions
import ChangeImpact.Proofs.Wire.Pieces
import ChangeImpact.Proofs.Patch.Quoting
import ChangeImpact.Proofs.Repository.Priority
import ChangeImpact.Proofs.Patch.Parts
import ChangeImpact.Proofs.Patch.KeptLines
import ChangeImpact.Proofs.Catalog.PathMatch
import ChangeImpact.Proofs.Impact.Deletions
import ChangeImpact.Proofs.Impact.Policies
import ChangeImpact.Proofs.Patch.WholeLines
import ChangeImpact.Proofs.Repository.ReplyLines
import ChangeImpact.Proofs.Impact.ReportLayout
import ChangeImpact.Proofs.Catalog.Admission
import ChangeImpact.Proofs.Console.Columns
import ChangeImpact.Proofs.Console.Visible
import ChangeImpact.Proofs.Console.Literal
import ChangeImpact.Proofs.Console.ReportText
import ChangeImpact.Proofs.Patch.LineCount
import ChangeImpact.Proofs.Wire.Unfinished
import ChangeImpact.Proofs.Files.FirstRule
