import Flowscript.Analysis.Basic
import Flowscript.Analysis.Failure
import Flowscript.Analysis.Inputs
import Flowscript.Analysis.Markers
import Flowscript.Analysis.Poll
import Flowscript.Analysis.Ratio
import Flowscript.Analysis.Settings
import Flowscript.Binary64.Basic
import Flowscript.Binary64.Reading
import Flowscript.Binary64.Shortest
import Flowscript.Command
import Flowscript.CommandLine.Execution
import Flowscript.CommandLine.Invocation
import Flowscript.Format.Catalog
import Flowscript.Format.Reading
import Flowscript.Host.Basic
import Flowscript.Host.FileTree
import Flowscript.Host.Kernel
import Flowscript.Host.Process
import Flowscript.Host.Storage
import Flowscript.Host.Task
import Flowscript.Instances
import Flowscript.Json.Reader
import Flowscript.Json.Value
import Flowscript.Json.Writer
import Flowscript.Main
import Flowscript.Module.Definition
import Flowscript.Module.Template
import Flowscript.Path
import Flowscript.Pipeline.Basic
import Flowscript.Pipeline.Block
import Flowscript.Pipeline.Document
import Flowscript.Pipeline.Endpoint
import Flowscript.Pipeline.Feeders
import Flowscript.Pipeline.Identifier
import Flowscript.Programs.Archive
import Flowscript.Programs.Basic
import Flowscript.Programs.Calendar.Date
import Flowscript.Programs.Calendar.Format
import Flowscript.Programs.Calendar.Reading
import Flowscript.Programs.Compression.Basic
import Flowscript.Programs.Compression.Deflating
import Flowscript.Programs.Compression.Member
import Flowscript.Programs.Difference
import Flowscript.Programs.Digest
import Flowscript.Programs.Permission
import Flowscript.Programs.Quantity
import Flowscript.Programs.Regex.Basic
import Flowscript.Programs.Regex.Ordered
import Flowscript.Programs.Regex.OrderedReading
import Flowscript.Programs.Regex.Reading
import Flowscript.Programs.Shell.Arithmetic
import Flowscript.Programs.Shell.Assigning
import Flowscript.Programs.Shell.Builtin.Commands
import Flowscript.Programs.Shell.Builtin.Declaring
import Flowscript.Programs.Shell.Builtin.Processes
import Flowscript.Programs.Shell.Builtin.Variables
import Flowscript.Programs.Shell.Builtin.Wide
import Flowscript.Programs.Shell.Elements
import Flowscript.Programs.Shell.Evaluation
import Flowscript.Programs.Shell.Expansion
import Flowscript.Programs.Shell.Matching
import Flowscript.Programs.Shell.Means
import Flowscript.Programs.Shell.Pattern
import Flowscript.Programs.Shell.Printing
import Flowscript.Programs.Shell.Program
import Flowscript.Programs.Shell.Quoting
import Flowscript.Programs.Shell.Reckoning
import Flowscript.Programs.Shell.Redirecting
import Flowscript.Programs.Shell.Source
import Flowscript.Programs.Shell.State
import Flowscript.Programs.Shell.Statement
import Flowscript.Programs.Shell.StatementReading
import Flowscript.Programs.Shell.Verdict
import Flowscript.Programs.Shell.WordReading
import Flowscript.Programs.Text.CharClass
import Flowscript.Programs.Text.Directive
import Flowscript.Programs.Tool.Archiving
import Flowscript.Programs.Tool.Arguments
import Flowscript.Programs.Tool.Basic
import Flowscript.Programs.Tool.Blocks
import Flowscript.Programs.Tool.Calendar
import Flowscript.Programs.Tool.Comparing
import Flowscript.Programs.Tool.Compressing
import Flowscript.Programs.Tool.Difference.Basic
import Flowscript.Programs.Tool.Difference.Output
import Flowscript.Programs.Tool.Difference.Style
import Flowscript.Programs.Tool.Digests
import Flowscript.Programs.Tool.Dumping
import Flowscript.Programs.Tool.Editing.Basic
import Flowscript.Programs.Tool.Editing.Script
import Flowscript.Programs.Tool.Encoding
import Flowscript.Programs.Tool.Fields
import Flowscript.Programs.Tool.Files
import Flowscript.Programs.Tool.LineOrder
import Flowscript.Programs.Tool.Lines
import Flowscript.Programs.Tool.Listing
import Flowscript.Programs.Tool.Matching.Basic
import Flowscript.Programs.Tool.Matching.Input
import Flowscript.Programs.Tool.Matching.Style
import Flowscript.Programs.Tool.Measure
import Flowscript.Programs.Tool.Mode
import Flowscript.Programs.Tool.Names
import Flowscript.Programs.Tool.OptionWords
import Flowscript.Programs.Tool.Paging.Basic
import Flowscript.Programs.Tool.Paging.Press
import Flowscript.Programs.Tool.Paths
import Flowscript.Programs.Tool.Pieces
import Flowscript.Programs.Tool.Printing
import Flowscript.Programs.Tool.Processes
import Flowscript.Programs.Tool.Record.Basic
import Flowscript.Programs.Tool.Record.Evaluation
import Flowscript.Programs.Tool.Record.Reading
import Flowscript.Programs.Tool.Record.State
import Flowscript.Programs.Tool.Record.Token
import Flowscript.Programs.Tool.Scaling
import Flowscript.Programs.Tool.Search
import Flowscript.Programs.Tool.Sections
import Flowscript.Programs.Tool.Sequence
import Flowscript.Programs.Tool.Shuffling
import Flowscript.Programs.Tool.Sorting
import Flowscript.Programs.Tool.Streams
import Flowscript.Programs.Tool.Surroundings
import Flowscript.Programs.Tool.Testing
import Flowscript.Programs.Tool.Transfer
import Flowscript.Programs.Tool.Translating
import Flowscript.Proofs.Analysis.AtRisk
import Flowscript.Proofs.Analysis.Markers
import Flowscript.Proofs.Analysis.Overlap
import Flowscript.Proofs.Analysis.Ratio
import Flowscript.Proofs.Analysis.Ways
import Flowscript.Proofs.Ancestry
import Flowscript.Proofs.CommandLine.Compiling
import Flowscript.Proofs.Forest
import Flowscript.Proofs.Host.Writing
import Flowscript.Proofs.JoinedLines
import Flowscript.Proofs.Json.Numerals
import Flowscript.Proofs.Json.RoundTrip
import Flowscript.Proofs.Marks
import Flowscript.Proofs.Pipeline.Connecting
import Flowscript.Proofs.Pipeline.Consistency
import Flowscript.Proofs.Pipeline.Deleting
import Flowscript.Proofs.Pipeline.Departures
import Flowscript.Proofs.Pipeline.DocumentText
import Flowscript.Proofs.Pipeline.Endpoints
import Flowscript.Proofs.Pipeline.FirstWays
import Flowscript.Proofs.Pipeline.Numbering
import Flowscript.Proofs.Pipeline.Ports
import Flowscript.Proofs.Pipeline.Reachability
import Flowscript.Proofs.Pipeline.Refusals
import Flowscript.Proofs.Pipeline.Renaming
import Flowscript.Proofs.Pipeline.Replay
import Flowscript.Proofs.Pipeline.Rereading
import Flowscript.Proofs.Pipeline.Restoring
import Flowscript.Proofs.Pipeline.Saving
import Flowscript.Proofs.Pipeline.Undoing
import Flowscript.Proofs.Pipeline.Unsaved
import Flowscript.Proofs.Pipeline.Upstream
import Flowscript.Proofs.Script.Agreement
import Flowscript.Proofs.Script.Closure
import Flowscript.Proofs.Script.Complaints
import Flowscript.Proofs.Script.Counting
import Flowscript.Proofs.Script.Cycles
import Flowscript.Proofs.Script.Dataflow
import Flowscript.Proofs.Script.Drafts
import Flowscript.Proofs.Script.Expansion
import Flowscript.Proofs.Script.Frame
import Flowscript.Proofs.Script.Gathering
import Flowscript.Proofs.Script.Headers
import Flowscript.Proofs.Script.History
import Flowscript.Proofs.Script.Layout
import Flowscript.Proofs.Script.Makers
import Flowscript.Proofs.Script.Provenance
import Flowscript.Proofs.Script.Quoting
import Flowscript.Proofs.Script.RowsApart
import Flowscript.Proofs.Script.RuleLine
import Flowscript.Proofs.Script.RuleOrder
import Flowscript.Proofs.Script.Rules
import Flowscript.Proofs.Script.Title
import Flowscript.Proofs.Script.Validation
import Flowscript.Proofs.Shell.Expanding
import Flowscript.Proofs.Shell.Lines
import Flowscript.Proofs.Shell.Reading
import Flowscript.Proofs.Summary
import Flowscript.Proofs.Table
import Flowscript.Proofs.Template
import Flowscript.Proofs.Toolbox
import Flowscript.Proofs.Variables
import Flowscript.Proofs.Words
import Flowscript.Script.Basic
import Flowscript.Script.Compile
import Flowscript.Script.Layout
import Flowscript.Script.Rule
import Flowscript.Table.Basic
import Flowscript.Text.Basic
import Flowscript.Text.Octets
import Flowscript.Text.Quoted
import Flowscript.Text.Replace
import Flowscript.Toolbox
