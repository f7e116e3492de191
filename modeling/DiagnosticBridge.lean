import DiagnosticBridge.Check.Compilation
import DiagnosticBridge.Check.Ending
import DiagnosticBridge.Check.Flights
import DiagnosticBridge.Check.Outcome
import DiagnosticBridge.CommandLine
import DiagnosticBridge.Conversation
import DiagnosticBridge.Decimal.Binary64
import DiagnosticBridge.Decimal.Bounded
import DiagnosticBridge.Decimal.Power
import DiagnosticBridge.Decimal.Scaled
import DiagnosticBridge.Decimal.Shortest
import DiagnosticBridge.Diagnostic
import DiagnosticBridge.Documents
import DiagnosticBridge.Files.Fault
import DiagnosticBridge.Files.Path
import DiagnosticBridge.Files.Tree
import DiagnosticBridge.Frame.Reader
import DiagnosticBridge.Frame.Writer
import DiagnosticBridge.Json.Decode
import DiagnosticBridge.Json.Printer
import DiagnosticBridge.Json.Reader
import DiagnosticBridge.Json.Value
import DiagnosticBridge.Main
import DiagnosticBridge.Program
import DiagnosticBridge.Proofs.Answers
import DiagnosticBridge.Proofs.Banners
import DiagnosticBridge.Proofs.BareLocators
import DiagnosticBridge.Proofs.Characters
import DiagnosticBridge.Proofs.Convergence
import DiagnosticBridge.Proofs.Coverage
import DiagnosticBridge.Proofs.Currency
import DiagnosticBridge.Proofs.Decomposition
import DiagnosticBridge.Proofs.EditorValues
import DiagnosticBridge.Proofs.Endings
import DiagnosticBridge.Proofs.Entries
import DiagnosticBridge.Proofs.Excerpts
import DiagnosticBridge.Proofs.Failures
import DiagnosticBridge.Proofs.Framing
import DiagnosticBridge.Proofs.Freshness
import DiagnosticBridge.Proofs.Generations
import DiagnosticBridge.Proofs.HeaderBlocks
import DiagnosticBridge.Proofs.Headers
import DiagnosticBridge.Proofs.History
import DiagnosticBridge.Proofs.Interleaving
import DiagnosticBridge.Proofs.Layering
import DiagnosticBridge.Proofs.Lifecycle
import DiagnosticBridge.Proofs.LineEndings
import DiagnosticBridge.Proofs.LineNumbers
import DiagnosticBridge.Proofs.Listings
import DiagnosticBridge.Proofs.Locators
import DiagnosticBridge.Proofs.Messages
import DiagnosticBridge.Proofs.Objects
import DiagnosticBridge.Proofs.Printed
import DiagnosticBridge.Proofs.Priority
import DiagnosticBridge.Proofs.Provenance
import DiagnosticBridge.Proofs.Publication
import DiagnosticBridge.Proofs.Reactions
import DiagnosticBridge.Proofs.Rechecking
import DiagnosticBridge.Proofs.Reconfiguration
import DiagnosticBridge.Proofs.Records
import DiagnosticBridge.Proofs.References
import DiagnosticBridge.Proofs.Refusals
import DiagnosticBridge.Proofs.Rejection
import DiagnosticBridge.Proofs.Rendering
import DiagnosticBridge.Proofs.Restriction
import DiagnosticBridge.Proofs.Returns
import DiagnosticBridge.Proofs.Sentences
import DiagnosticBridge.Proofs.Separation
import DiagnosticBridge.Proofs.Shutdown
import DiagnosticBridge.Proofs.Silence
import DiagnosticBridge.Proofs.SingleFlight
import DiagnosticBridge.Proofs.Streams
import DiagnosticBridge.Proofs.Totality
import DiagnosticBridge.Proofs.Tracking
import DiagnosticBridge.Proofs.Truncation
import DiagnosticBridge.Proofs.Warnings
import DiagnosticBridge.Protocol.Incoming
import DiagnosticBridge.Protocol.Notice
import DiagnosticBridge.Protocol.Outgoing
import DiagnosticBridge.Protocol.Params
import DiagnosticBridge.Rehearsal.Flights
import DiagnosticBridge.Rehearsal.Program
import DiagnosticBridge.Rehearsal.Script
import DiagnosticBridge.Rehearsal.Session
import DiagnosticBridge.Report.Banner
import DiagnosticBridge.Report.Extract
import DiagnosticBridge.Report.LineNumber
import DiagnosticBridge.Report.Located
import DiagnosticBridge.Report.MissingLibrary
import DiagnosticBridge.Report.Undeclared
import DiagnosticBridge.Server
import DiagnosticBridge.Session
import DiagnosticBridge.Settings.Compiler
import DiagnosticBridge.Settings.ConfigFile
import DiagnosticBridge.Settings.Editor
import DiagnosticBridge.Settings.Expansion
import DiagnosticBridge.Settings.Layer
import DiagnosticBridge.Settings.Location
import DiagnosticBridge.Settings.Trace
import DiagnosticBridge.Shell.Arithmetic
import DiagnosticBridge.Shell.Builtin
import DiagnosticBridge.Shell.Chunk
import DiagnosticBridge.Shell.Command
import DiagnosticBridge.Shell.Condition
import DiagnosticBridge.Shell.Execution
import DiagnosticBridge.Shell.Expansion
import DiagnosticBridge.Shell.Fields
import DiagnosticBridge.Shell.Launch
import DiagnosticBridge.Shell.Launcher
import DiagnosticBridge.Shell.Lookup
import DiagnosticBridge.Shell.Number
import DiagnosticBridge.Shell.Pattern
import DiagnosticBridge.Shell.Permission
import DiagnosticBridge.Shell.Printf
import DiagnosticBridge.Shell.Reader
import DiagnosticBridge.Shell.Signal
import DiagnosticBridge.Shell.Source
import DiagnosticBridge.Shell.State
import DiagnosticBridge.Shell.Task
import DiagnosticBridge.Shell.Text
import DiagnosticBridge.Table
import DiagnosticBridge.Text.Digit
import DiagnosticBridge.Text.Hidden
import DiagnosticBridge.Text.Lines
import DiagnosticBridge.Text.Quoted
import DiagnosticBridge.Text.Search
import DiagnosticBridge.Text.Space
import DiagnosticBridge.Text.Utf8
import DiagnosticBridge.Toml.Literal
import DiagnosticBridge.Toml.Quoted
import DiagnosticBridge.Toml.Reader
import DiagnosticBridge.Toml.Value
import DiagnosticBridge.Utility.Catalogue
import DiagnosticBridge.Utility.Directory
import DiagnosticBridge.Utility.Editing
import DiagnosticBridge.Utility.Lines
import DiagnosticBridge.Utility.Matching
import DiagnosticBridge.Utility.Options
import DiagnosticBridge.Utility.Reading
import DiagnosticBridge.Utility.Regex
import DiagnosticBridge.Utility.Surroundings
