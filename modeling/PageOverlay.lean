import PageOverlay.Change.Undo
import PageOverlay.Cli.Arguments
import PageOverlay.Cli.Files
import PageOverlay.Cli.Outline
import PageOverlay.Cli.Program
import PageOverlay.Cli.Report
import PageOverlay.Cli.Sources
import PageOverlay.Command.Apply
import PageOverlay.Command.Basic
import PageOverlay.Command.Builder
import PageOverlay.Command.Catalogue
import PageOverlay.Command.Invocation
import PageOverlay.Configuration.Basic
import PageOverlay.Configuration.Commands
import PageOverlay.Configuration.Imports
import PageOverlay.Configuration.Store
import PageOverlay.Fields
import PageOverlay.Json.Basic
import PageOverlay.Json.Double
import PageOverlay.Json.MergePatch
import PageOverlay.Json.Reader
import PageOverlay.Json.Writer
import PageOverlay.Main
import PageOverlay.Page.Snapshot
import PageOverlay.Page.Tree
import PageOverlay.Pattern
import PageOverlay.Proofs.Change.Edits
import PageOverlay.Proofs.Change.ElementSweep
import PageOverlay.Proofs.Change.Failing
import PageOverlay.Proofs.Change.Outcome
import PageOverlay.Proofs.Change.Reverting
import PageOverlay.Proofs.Change.RevertingAgain
import PageOverlay.Proofs.Change.RevertingAtOnce
import PageOverlay.Proofs.Change.SideBySide
import PageOverlay.Proofs.Command.ActionTurns
import PageOverlay.Proofs.Command.Building
import PageOverlay.Proofs.Command.ChangeRecords
import PageOverlay.Proofs.Command.Failing
import PageOverlay.Proofs.Command.Links
import PageOverlay.Proofs.Command.PageEffects
import PageOverlay.Proofs.Command.PropertyNames
import PageOverlay.Proofs.Command.StructuralCommands
import PageOverlay.Proofs.Command.Wrapping
import PageOverlay.Proofs.Command.WrittenCalls
import PageOverlay.Proofs.Configuration.Conditions
import PageOverlay.Proofs.Configuration.FaultyLines
import PageOverlay.Proofs.Configuration.Flattening
import PageOverlay.Proofs.Configuration.ImportGraph
import PageOverlay.Proofs.Configuration.LeftLines
import PageOverlay.Proofs.Configuration.LineCount
import PageOverlay.Proofs.Configuration.ListedVariables
import PageOverlay.Proofs.Configuration.LiveTexts
import PageOverlay.Proofs.Configuration.PlainReplacement
import PageOverlay.Proofs.Configuration.Precedence
import PageOverlay.Proofs.Configuration.Protecting
import PageOverlay.Proofs.Configuration.Reach
import PageOverlay.Proofs.Configuration.ReadAlike
import PageOverlay.Proofs.Configuration.Renumbered
import PageOverlay.Proofs.Configuration.Scratch
import PageOverlay.Proofs.Configuration.TextFold
import PageOverlay.Proofs.Configuration.Traversals
import PageOverlay.Proofs.Json.Merging
import PageOverlay.Proofs.Json.Ordered
import PageOverlay.Proofs.Page.AddedLeaf
import PageOverlay.Proofs.Page.Cells
import PageOverlay.Proofs.Page.Content
import PageOverlay.Proofs.Page.Elements
import PageOverlay.Proofs.Page.Loading
import PageOverlay.Proofs.Page.Nodes
import PageOverlay.Proofs.Page.Operations
import PageOverlay.Proofs.Page.Order
import PageOverlay.Proofs.Page.ProperNodes
import PageOverlay.Proofs.Page.ReadingBack
import PageOverlay.Proofs.Page.Refilling
import PageOverlay.Proofs.Page.Relocation
import PageOverlay.Proofs.Page.Rewriting
import PageOverlay.Proofs.Page.ShownNodes
import PageOverlay.Proofs.Page.SnapshotRoundTrip
import PageOverlay.Proofs.Page.Walking
import PageOverlay.Proofs.Page.WellFormed
import PageOverlay.Proofs.Rule.Numbering
import PageOverlay.Proofs.Run.Accounting
import PageOverlay.Proofs.Run.ClockTurns
import PageOverlay.Proofs.Run.Draining
import PageOverlay.Proofs.Run.FailingTicks
import PageOverlay.Proofs.Run.History
import PageOverlay.Proofs.Run.JobSchedule
import PageOverlay.Proofs.Run.Lifecycle
import PageOverlay.Proofs.Run.LosingRecords
import PageOverlay.Proofs.Run.MoveRule
import PageOverlay.Proofs.Run.Parallel
import PageOverlay.Proofs.Run.Restarting
import PageOverlay.Proofs.Run.Restoring
import PageOverlay.Proofs.Run.ShiftedClock
import PageOverlay.Proofs.Run.ShortenedLabels
import PageOverlay.Proofs.Run.SpreadWords
import PageOverlay.Proofs.Run.TickVisits
import PageOverlay.Proofs.Run.Timetable
import PageOverlay.Proofs.Selector.Compounds
import PageOverlay.Proofs.Selector.Matching
import PageOverlay.Proofs.Selector.Placing
import PageOverlay.Proofs.Selector.Reading
import PageOverlay.Proofs.Selector.RoundTrip
import PageOverlay.Proofs.Selector.Values
import PageOverlay.Proofs.Selector.Written
import PageOverlay.Proofs.Sheet.Balance
import PageOverlay.Proofs.Sheet.CallLines
import PageOverlay.Proofs.Sheet.Collecting
import PageOverlay.Proofs.Sheet.Deletion
import PageOverlay.Proofs.Sheet.ExpressionKeys
import PageOverlay.Proofs.Sheet.Filling
import PageOverlay.Proofs.Sheet.LineBreaks
import PageOverlay.Proofs.Sheet.LongestName
import PageOverlay.Proofs.Sheet.Options
import PageOverlay.Proofs.Sheet.Outcomes
import PageOverlay.Proofs.Sheet.Placeholders
import PageOverlay.Proofs.Sheet.PlainLines
import PageOverlay.Proofs.Sheet.Printing
import PageOverlay.Proofs.Sheet.Quoting
import PageOverlay.Proofs.Sheet.Renumbering
import PageOverlay.Proofs.Sheet.RoundTrip
import PageOverlay.Proofs.Sheet.Scoping
import PageOverlay.Proofs.Text.AsciiCase
import PageOverlay.Proofs.Text.Gaps
import PageOverlay.Proofs.Text.Replacing
import PageOverlay.Proofs.Text.Trimming
import PageOverlay.Proofs.Text.WordCharacters
import PageOverlay.Regex.Basic
import PageOverlay.Regex.ClassNames
import PageOverlay.Regex.Reader
import PageOverlay.Regex.Search
import PageOverlay.Regex.Template
import PageOverlay.Rule.Book
import PageOverlay.Rule.Request
import PageOverlay.Rule.Response
import PageOverlay.Run.Clock
import PageOverlay.Run.Labels
import PageOverlay.Run.Runner
import PageOverlay.Selector.Basic
import PageOverlay.Selector.Parser
import PageOverlay.Sheet.Assignment
import PageOverlay.Sheet.Basic
import PageOverlay.Sheet.Line
import PageOverlay.Sheet.Parameters
import PageOverlay.Sheet.Placeholder
import PageOverlay.Sheet.Variables
import PageOverlay.Text.Blank
import PageOverlay.Text.CaseMap
import PageOverlay.Text.Casing
import PageOverlay.Text.Category
import PageOverlay.Text.CodeSet
import PageOverlay.Text.Folding
import PageOverlay.Text.Hex
import PageOverlay.Text.Pieces
import PageOverlay.Text.Property
import PageOverlay.Text.Search
import PageOverlay.Text.Word
import PageOverlay.Text.WritingSystem
