import SyntaxSweep.Cancellation
import SyntaxSweep.Check.Batch
import SyntaxSweep.Check.Diagnostic
import SyntaxSweep.Check.Outcome
import SyntaxSweep.Check.Schedule
import SyntaxSweep.Check.Scripted
import SyntaxSweep.CommandLine.Arguments
import SyntaxSweep.CommandLine.Reading
import SyntaxSweep.CommandLine.Usage
import SyntaxSweep.Decimal.Binary64
import SyntaxSweep.Decimal.Shortest
import SyntaxSweep.Disk.Edit
import SyntaxSweep.Disk.Node
import SyntaxSweep.Disk.Resolution
import SyntaxSweep.Failure
import SyntaxSweep.Filter
import SyntaxSweep.IoProblem
import SyntaxSweep.Machine.Basic
import SyntaxSweep.Machine.Calls
import SyntaxSweep.Machine.Launch
import SyntaxSweep.Machine.Running
import SyntaxSweep.Machine.Streams
import SyntaxSweep.Machine.Surroundings
import SyntaxSweep.Machine.System
import SyntaxSweep.Machine.Task
import SyntaxSweep.Machine.Workers
import SyntaxSweep.Main
import SyntaxSweep.Path.Basic
import SyntaxSweep.Path.Rendering
import SyntaxSweep.PathList
import SyntaxSweep.Program
import SyntaxSweep.Proofs.Cancellation.Lineage
import SyntaxSweep.Proofs.Cancellation.Raised
import SyntaxSweep.Proofs.Check.Agreement
import SyntaxSweep.Proofs.Check.Calls
import SyntaxSweep.Proofs.Check.Consistency
import SyntaxSweep.Proofs.Check.Exchanges
import SyntaxSweep.Proofs.Check.InOrder
import SyntaxSweep.Proofs.Check.Interleaving
import SyntaxSweep.Proofs.Check.Naming
import SyntaxSweep.Proofs.Check.Recording
import SyntaxSweep.Proofs.Check.Workers
import SyntaxSweep.Proofs.Disk.Linkless
import SyntaxSweep.Proofs.Disk.Tree
import SyntaxSweep.Proofs.Machine.Answers
import SyntaxSweep.Proofs.Machine.Watching
import SyntaxSweep.Proofs.Path.Below
import SyntaxSweep.Proofs.Path.Order
import SyntaxSweep.Proofs.Path.Shown
import SyntaxSweep.Proofs.Run.ExitCode
import SyntaxSweep.Proofs.Run.Formats
import SyntaxSweep.Proofs.Run.Preparing
import SyntaxSweep.Proofs.Scan.Aliases
import SyntaxSweep.Proofs.Scan.Faults
import SyntaxSweep.Proofs.Scan.Found
import SyntaxSweep.Proofs.Scan.Pruning
import SyntaxSweep.Proofs.Scan.Selection
import SyntaxSweep.Proofs.Scan.Widening
import SyntaxSweep.Proofs.Settings.Layering
import SyntaxSweep.Proofs.Settings.Written
import SyntaxSweep.Proofs.Staged.Printing
import SyntaxSweep.Proofs.Staged.Scoping
import SyntaxSweep.Proofs.Text.Splitting
import SyntaxSweep.Proofs.Text.Utf8
import SyntaxSweep.Proofs.Toml.Lines
import SyntaxSweep.Proofs.Toml.Spelling
import SyntaxSweep.Regex.Basic
import SyntaxSweep.Regex.Bracket
import SyntaxSweep.Regex.Reading
import SyntaxSweep.Report.Json
import SyntaxSweep.Report.Seconds
import SyntaxSweep.Report.Style
import SyntaxSweep.Report.Summary
import SyntaxSweep.Scan
import SyntaxSweep.Settings.Basic
import SyntaxSweep.Settings.Discovery
import SyntaxSweep.Settings.Layer
import SyntaxSweep.Settings.Reading
import SyntaxSweep.Shell.Builtins
import SyntaxSweep.Shell.Commands
import SyntaxSweep.Shell.Evaluation
import SyntaxSweep.Shell.Expansion
import SyntaxSweep.Shell.Fields
import SyntaxSweep.Shell.Jobs
import SyntaxSweep.Shell.Options
import SyntaxSweep.Shell.Pattern
import SyntaxSweep.Shell.Reader
import SyntaxSweep.Shell.Reading
import SyntaxSweep.Shell.Redirecting
import SyntaxSweep.Shell.Signalling
import SyntaxSweep.Shell.Signals
import SyntaxSweep.Shell.Starting
import SyntaxSweep.Shell.State
import SyntaxSweep.Shell.Sum
import SyntaxSweep.Shell.Syntax
import SyntaxSweep.Shell.Testing
import SyntaxSweep.Staged
import SyntaxSweep.Supervision
import SyntaxSweep.Text.Blank
import SyntaxSweep.Text.Formatted
import SyntaxSweep.Text.Lines
import SyntaxSweep.Text.Occurs
import SyntaxSweep.Text.Octets
import SyntaxSweep.Text.Quoted
import SyntaxSweep.Text.Utf8
import SyntaxSweep.Toml.Assembly
import SyntaxSweep.Toml.Blank
import SyntaxSweep.Toml.DateTime
import SyntaxSweep.Toml.Expression
import SyntaxSweep.Toml.Number
import SyntaxSweep.Toml.Reading
import SyntaxSweep.Toml.Text
import SyntaxSweep.Toml.Value
import SyntaxSweep.Tools.Basic
import SyntaxSweep.Tools.Copying
import SyntaxSweep.Tools.Searching.Asked
import SyntaxSweep.Tools.Searching.Finding
import SyntaxSweep.Tools.Searching.Printing
import SyntaxSweep.Tools.Searching.Running
import SyntaxSweep.Tools.Sleeping
import SyntaxSweep.Tools.Small
import SyntaxSweep.Unicode.Digit
import SyntaxSweep.Unicode.Ranges
import SyntaxSweep.Unicode.Visible
import SyntaxSweep.Unicode.Word
import SyntaxSweep.Proofs.Scan.Relocation
import SyntaxSweep.Proofs.Toml.Keys
import SyntaxSweep.Proofs.CommandLine.Contents
import SyntaxSweep.Proofs.Settings.Decoding
import SyntaxSweep.Proofs.CommandLine.Written
import SyntaxSweep.Proofs.CommandLine.Sources
import SyntaxSweep.Proofs.Settings.Restating
import SyntaxSweep.Proofs.Check.NamedLine
import SyntaxSweep.Proofs.Machine.Reaping
import SyntaxSweep.Proofs.Text.Listing
import SyntaxSweep.Proofs.Staged.Keeping
import SyntaxSweep.Proofs.Settings.Nearest
import SyntaxSweep.Proofs.Report.Document
import SyntaxSweep.Proofs.Check.LineNumber
import SyntaxSweep.Proofs.Scan.Extension
import SyntaxSweep.Proofs.Report.Colours
import SyntaxSweep.Proofs.Path.Relative
