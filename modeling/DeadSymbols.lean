import DeadSymbols.Binary64.Basic
import DeadSymbols.Binary64.Decimal
import DeadSymbols.CommandLine.Options
import DeadSymbols.CommandLine.Run
import DeadSymbols.CommandLine.Word
import DeadSymbols.Config
import DeadSymbols.Config.Decode
import DeadSymbols.Config.Load
import DeadSymbols.Discovery.Find
import DeadSymbols.Discovery.Walk
import DeadSymbols.Fault
import DeadSymbols.FileTree
import DeadSymbols.Glob.Basic
import DeadSymbols.Glob.Parser
import DeadSymbols.Ignore.Layer
import DeadSymbols.Ignore.Rule
import DeadSymbols.Json.Basic
import DeadSymbols.Json.Parser
import DeadSymbols.Json.Printer
import DeadSymbols.Json.Record
import DeadSymbols.Main
import DeadSymbols.Notice
import DeadSymbols.OsError
import DeadSymbols.Outline.Basic
import DeadSymbols.Outline.Decode
import DeadSymbols.Path
import DeadSymbols.Proofs.Abandonment
import DeadSymbols.Proofs.Accounting
import DeadSymbols.Proofs.Bracketing
import DeadSymbols.Proofs.Calls
import DeadSymbols.Proofs.Cancellation
import DeadSymbols.Proofs.Chunks
import DeadSymbols.Proofs.Compact
import DeadSymbols.Proofs.Consumption
import DeadSymbols.Proofs.Conversation
import DeadSymbols.Proofs.Course
import DeadSymbols.Proofs.Deadlines
import DeadSymbols.Proofs.Decoding
import DeadSymbols.Proofs.Delivery
import DeadSymbols.Proofs.Digits
import DeadSymbols.Proofs.Encoding
import DeadSymbols.Proofs.Endings
import DeadSymbols.Proofs.Enumeration
import DeadSymbols.Proofs.Exchange
import DeadSymbols.Proofs.Exclusion
import DeadSymbols.Proofs.FlatOutlines
import DeadSymbols.Proofs.Folders
import DeadSymbols.Proofs.Frames
import DeadSymbols.Proofs.Framing
import DeadSymbols.Proofs.Hangup
import DeadSymbols.Proofs.Headers
import DeadSymbols.Proofs.Heeding
import DeadSymbols.Proofs.Indented
import DeadSymbols.Proofs.Independence
import DeadSymbols.Proofs.Interjections
import DeadSymbols.Proofs.Isolation
import DeadSymbols.Proofs.JsonReports
import DeadSymbols.Proofs.JsonText
import DeadSymbols.Proofs.Lines
import DeadSymbols.Proofs.Log
import DeadSymbols.Proofs.Members
import DeadSymbols.Proofs.Outage
import DeadSymbols.Proofs.Output
import DeadSymbols.Proofs.Overlays
import DeadSymbols.Proofs.Preorder
import DeadSymbols.Proofs.Progress
import DeadSymbols.Proofs.Refinement
import DeadSymbols.Proofs.Relay
import DeadSymbols.Proofs.Replay
import DeadSymbols.Proofs.Resolution
import DeadSymbols.Proofs.Routing
import DeadSymbols.Proofs.Serving
import DeadSymbols.Proofs.Stages
import DeadSymbols.Proofs.TextReports
import DeadSymbols.Proofs.Threshold
import DeadSymbols.Proofs.Transcript
import DeadSymbols.Proofs.Truncation
import DeadSymbols.Proofs.Utf8
import DeadSymbols.Proofs.Verdicts
import DeadSymbols.Proofs.Writing
import DeadSymbols.Report.Delivery
import DeadSymbols.Report.Document
import DeadSymbols.Scan.Classify
import DeadSymbols.Scan.Event
import DeadSymbols.Scan.Outcome
import DeadSymbols.Scan.Run
import DeadSymbols.Scan.Walk
import DeadSymbols.Selection
import DeadSymbols.Service
import DeadSymbols.Service.Table
import DeadSymbols.Session.Basic
import DeadSymbols.Session.Client
import DeadSymbols.Session.Launch
import DeadSymbols.Session.Message
import DeadSymbols.Session.Replies
import DeadSymbols.Session.Request
import DeadSymbols.Session.Routing
import DeadSymbols.Session.Stream
import DeadSymbols.Text.CaseTable
import DeadSymbols.Text.Lines
import DeadSymbols.Text.Lower
import DeadSymbols.Text.Natural
import DeadSymbols.Text.Space
import DeadSymbols.Text.Utf8
import DeadSymbols.Toml.Config
import DeadSymbols.Toml.Moment
import DeadSymbols.Toml.Parser
import DeadSymbols.Toml.Value
import DeadSymbols.Uri.Absolute
import DeadSymbols.Uri.File
import DeadSymbols.Wire.Arrival
import DeadSymbols.Wire.Frame
import DeadSymbols.Yaml.Cursor
import DeadSymbols.Yaml.Node
import DeadSymbols.Yaml.Number
import DeadSymbols.Yaml.Scalar
import DeadSymbols.Yaml.Token
import DeadSymbols.Yaml.Value
