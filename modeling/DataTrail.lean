import DataTrail.Archive
import DataTrail.CallGraph
import DataTrail.Command.Arguments
import DataTrail.Command.Run
import DataTrail.Disclosure
import DataTrail.Disk.Basic
import DataTrail.Disk.Fault
import DataTrail.Disk.FileTree
import DataTrail.Disk.Path
import DataTrail.Dispatch
import DataTrail.DotEnv
import DataTrail.FactStream
import DataTrail.Facts
import DataTrail.Facts.Form
import DataTrail.Findings
import DataTrail.Gzip
import DataTrail.Gzip.Bits
import DataTrail.Gzip.Checksum
import DataTrail.Gzip.Code
import DataTrail.Gzip.Fault
import DataTrail.Gzip.Inflate
import DataTrail.Json.Basic
import DataTrail.Json.Fields
import DataTrail.Json.Lexer
import DataTrail.Json.Literal
import DataTrail.Json.Printer
import DataTrail.Json.Reader
import DataTrail.Main
import DataTrail.MethodId
import DataTrail.Notice
import DataTrail.Page
import DataTrail.Page.Fragment
import DataTrail.Page.Lane
import DataTrail.Program
import DataTrail.Proofs.Archive
import DataTrail.Proofs.CallGraph
import DataTrail.Proofs.Collections
import DataTrail.Proofs.Cycles
import DataTrail.Proofs.Export
import DataTrail.Proofs.FactStream
import DataTrail.Proofs.FileTree
import DataTrail.Proofs.Findings
import DataTrail.Proofs.Finish
import DataTrail.Proofs.Forms
import DataTrail.Proofs.Freshness
import DataTrail.Proofs.Growth
import DataTrail.Proofs.Handle
import DataTrail.Proofs.Ingest
import DataTrail.Proofs.JsonText
import DataTrail.Proofs.Lanes
import DataTrail.Proofs.Lapse
import DataTrail.Proofs.Layers
import DataTrail.Proofs.LineFaults
import DataTrail.Proofs.Markup
import DataTrail.Proofs.Mirror
import DataTrail.Proofs.Namespaces
import DataTrail.Proofs.Order
import DataTrail.Proofs.Pieces
import DataTrail.Proofs.Placement
import DataTrail.Proofs.Redelivery
import DataTrail.Proofs.Refresh
import DataTrail.Proofs.Registration
import DataTrail.Proofs.Release
import DataTrail.Proofs.Resolution
import DataTrail.Proofs.Retry
import DataTrail.Proofs.Run
import DataTrail.Proofs.Standing
import DataTrail.Proofs.Survey
import DataTrail.Proofs.Tally
import DataTrail.Proofs.Tolerance
import DataTrail.Proofs.Traversal
import DataTrail.Proofs.Utf8
import DataTrail.Proofs.WaitList
import DataTrail.Proofs.Wakeup
import DataTrail.Proofs.Writers
import DataTrail.Recorder
import DataTrail.Registry
import DataTrail.Report
import DataTrail.Report.Form
import DataTrail.Session.Basic
import DataTrail.Session.Finish
import DataTrail.Session.Handle
import DataTrail.Session.Ingest
import DataTrail.Settings
import DataTrail.Settings.Form
import DataTrail.Settings.Layers
import DataTrail.Text.Blank
import DataTrail.Text.Decimal
import DataTrail.Text.Letters
import DataTrail.Text.Lines
import DataTrail.Text.Pieces
import DataTrail.Text.Printable
import DataTrail.Text.Quoted
import DataTrail.Text.Utf8
import DataTrail.Toml.Basic
import DataTrail.Toml.Moment
import DataTrail.Toml.Number
import DataTrail.Toml.Parser
import DataTrail.Toml.Text
import DataTrail.Traversal
import DataTrail.WaitList
import DataTrail.Proofs.Simulation
import DataTrail.Proofs.Verdicts
