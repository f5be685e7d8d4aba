import Isolation.Archive.Basic
import Isolation.Archive.Open
import Isolation.Archive.Scan
import Isolation.Binary64.Basic
import Isolation.Binary64.Shortest
import Isolation.Binary64.Text
import Isolation.Capture
import Isolation.Checksum.Crc32
import Isolation.Checksum.Sha256
import Isolation.CommandLine.Report
import Isolation.CommandLine.Task
import Isolation.CommandLine.Words
import Isolation.Context.Basic
import Isolation.Context.Store
import Isolation.Context.ThreadMap
import Isolation.Diagnostic
import Isolation.Envelope.Basic
import Isolation.Envelope.Plain
import Isolation.Failure
import Isolation.Fields
import Isolation.FileSystem
import Isolation.Json.Node
import Isolation.Json.Number
import Isolation.Json.Quoted
import Isolation.Json.Shape
import Isolation.Json.Token
import Isolation.Loader.Basic
import Isolation.Loader.Error
import Isolation.Loader.Resolve
import Isolation.Main
import Isolation.Path
import Isolation.Policy.Basic
import Isolation.Policy.File
import Isolation.Proofs.Archive.Confined
import Isolation.Proofs.Archive.Entry
import Isolation.Proofs.Archive.Listing
import Isolation.Proofs.Archive.Open
import Isolation.Proofs.Archive.Package
import Isolation.Proofs.Archive.Reading
import Isolation.Proofs.Archive.Scan
import Isolation.Proofs.Archive.Stored
import Isolation.Proofs.Archive.Union
import Isolation.Proofs.Binary64.Format
import Isolation.Proofs.Binary64.Precision
import Isolation.Proofs.Binary64.Rounding
import Isolation.Proofs.Binary64.Shortest
import Isolation.Proofs.Capture.Chain
import Isolation.Proofs.Capture.Value
import Isolation.Proofs.CommandLine.Records
import Isolation.Proofs.CommandLine.Routes
import Isolation.Proofs.Context.Access
import Isolation.Proofs.Context.Carry
import Isolation.Proofs.Context.Store
import Isolation.Proofs.Context.Threads
import Isolation.Proofs.Envelope.Depth
import Isolation.Proofs.Envelope.Floats
import Isolation.Proofs.Envelope.Framing
import Isolation.Proofs.Envelope.Outcome
import Isolation.Proofs.Envelope.Outputs
import Isolation.Proofs.Envelope.Passing
import Isolation.Proofs.Envelope.Returned
import Isolation.Proofs.Envelope.Scalar
import Isolation.Proofs.Envelope.Version
import Isolation.Proofs.Except
import Isolation.Proofs.Fields
import Isolation.Proofs.FileSystem
import Isolation.Proofs.FileSystem.WellFormed
import Isolation.Proofs.Json.Accuracy
import Isolation.Proofs.Json.Estimate
import Isolation.Proofs.Json.Extent
import Isolation.Proofs.Json.Float
import Isolation.Proofs.Json.Node
import Isolation.Proofs.Json.Number
import Isolation.Proofs.Json.Quoted
import Isolation.Proofs.Json.Token
import Isolation.Proofs.Loader.Alike
import Isolation.Proofs.Loader.Answers
import Isolation.Proofs.Loader.Bare
import Isolation.Proofs.Loader.Cache
import Isolation.Proofs.Loader.Calls
import Isolation.Proofs.Loader.Concurrent
import Isolation.Proofs.Loader.Exclusion
import Isolation.Proofs.Loader.Failed
import Isolation.Proofs.Loader.Held
import Isolation.Proofs.Loader.Identity
import Isolation.Proofs.Loader.Lookup
import Isolation.Proofs.Loader.Made
import Isolation.Proofs.Loader.Run
import Isolation.Proofs.Loader.Search
import Isolation.Proofs.Policy.Discovery
import Isolation.Proofs.Symbol
import Isolation.Proofs.Symbol.Inverse
import Isolation.Proofs.System.Answer
import Isolation.Proofs.System.Calm
import Isolation.Proofs.System.Cleanup
import Isolation.Proofs.System.Crossing
import Isolation.Proofs.System.Depth
import Isolation.Proofs.System.Dispatch
import Isolation.Proofs.System.Modest
import Isolation.Proofs.System.Nested
import Isolation.Proofs.System.Sharing
import Isolation.Proofs.System.Steps
import Isolation.Proofs.System.Supply
import Isolation.Proofs.Text.Order
import Isolation.Proofs.Text.Utf8
import Isolation.Scalar
import Isolation.Session.Command
import Isolation.Session.Run
import Isolation.StringMap
import Isolation.Symbol
import Isolation.System.Basic
import Isolation.System.Dispatch
import Isolation.System.Propagate
import Isolation.Text.Blank
import Isolation.Text.Hex
import Isolation.Text.Numeral
import Isolation.Text.Printable
import Isolation.Text.Quoted
import Isolation.Text.Utf8
import Isolation.Toml.Document
import Isolation.Toml.Item
import Isolation.Toml.Line
import Isolation.Toml.Numeral
import Isolation.Toml.Quoted
import Isolation.Toml.Table
import Isolation.Value
import Isolation.Work.Basic
import Isolation.Work.Registry
import Isolation.Work.Script
import Isolation.Zip.Code
import Isolation.Zip.Container
import Isolation.Zip.Inflate
