import Courier.Banner
import Courier.Cipher.Aes
import Courier.Cipher.Gcm
import Courier.Claim.Basic
import Courier.Claim.Redis
import Courier.Command.Basic
import Courier.Command.Ending
import Courier.Command.Flag
import Courier.Command.Inspect
import Courier.Command.Run
import Courier.Command.Serve
import Courier.Command.Stack
import Courier.Command.Start
import Courier.Command.Watch
import Courier.Completion.Once
import Courier.Completion.Responder
import Courier.Config.Basic
import Courier.Config.Document
import Courier.Config.Load
import Courier.Dump.Analysis
import Courier.Dump.Fault
import Courier.Dump.Program
import Courier.Dump.Result
import Courier.Dump.Rpc
import Courier.Dump.Run
import Courier.Dump.Stable
import Courier.Dump.Store
import Courier.Dump.Value
import Courier.Expr
import Courier.Files
import Courier.Graph.Basic
import Courier.Graph.Check
import Courier.Graph.Depth
import Courier.Graph.Diagram
import Courier.Http.Address
import Courier.Http.Body
import Courier.Http.Document
import Courier.Http.Percent
import Courier.Http.Response
import Courier.Http.Route
import Courier.Http.Server
import Courier.Http.Target
import Courier.Json.Access
import Courier.Json.Basic
import Courier.Json.Reader
import Courier.Json.Writer
import Courier.Keyed
import Courier.Log.Entry
import Courier.Log.Level
import Courier.Log.Record
import Courier.Log.Text
import Courier.Main
import Courier.Mark
import Courier.Mcp.Rpc
import Courier.Mcp.Tool
import Courier.Message
import Courier.Number.Binary
import Courier.Number.Decimal
import Courier.Number.Literal
import Courier.Path
import Courier.Pattern.Basic
import Courier.Pattern.Classes
import Courier.Pattern.Reader
import Courier.Pool.Basic
import Courier.Pool.Lazy
import Courier.Pool.Settle
import Courier.Pool.State
import Courier.Program.Basic
import Courier.Program.Block
import Courier.Program.Document
import Courier.Program.Lint
import Courier.Program.Source
import Courier.Proofs.Cipher.Opening
import Courier.Proofs.Claim.Agreement
import Courier.Proofs.Completion
import Courier.Proofs.Fallible
import Courier.Proofs.Graph.Cycle
import Courier.Proofs.Graph.Depth
import Courier.Proofs.Graph.Drawing
import Courier.Proofs.Graph.Placement
import Courier.Proofs.Http.Addressed
import Courier.Proofs.Http.Answered
import Courier.Proofs.Http.Delivered
import Courier.Proofs.Http.Handlers
import Courier.Proofs.Http.Segment
import Courier.Proofs.Http.Waiting
import Courier.Proofs.Json.Lines
import Courier.Proofs.Json.RoundTrip
import Courier.Proofs.Keyed
import Courier.Proofs.Number.Amount
import Courier.Proofs.Number.Numeral
import Courier.Proofs.Number.Rounding
import Courier.Proofs.Number.Shortest
import Courier.Proofs.Pool.Accounts
import Courier.Proofs.Pool.FirstUse
import Courier.Proofs.Pool.Handle
import Courier.Proofs.Pool.Operations
import Courier.Proofs.Pool.Order
import Courier.Proofs.Pool.Reported
import Courier.Proofs.Pool.Shared
import Courier.Proofs.Program.Advice
import Courier.Proofs.Program.Builder
import Courier.Proofs.Program.Diagnosis
import Courier.Proofs.Program.Documents
import Courier.Proofs.Program.Fields
import Courier.Proofs.Program.Interpreter
import Courier.Proofs.Program.Layout
import Courier.Proofs.Program.Lint
import Courier.Proofs.Program.Meaning
import Courier.Proofs.Program.Shape
import Courier.Proofs.Program.WellFormed
import Courier.Proofs.Registry
import Courier.Proofs.Result.Carried
import Courier.Proofs.Run.Bindings
import Courier.Proofs.Run.Bounded
import Courier.Proofs.Run.Ended
import Courier.Proofs.Run.Lookup
import Courier.Proofs.Run.Observed
import Courier.Proofs.Run.Prefix
import Courier.Proofs.Run.Request
import Courier.Proofs.Run.Step
import Courier.Proofs.Run.Values
import Courier.Proofs.Schema.Numbers
import Courier.Proofs.Schema.Spelling
import Courier.Proofs.Service.Claims
import Courier.Proofs.Service.Concurrent
import Courier.Proofs.Service.ExactlyOnce
import Courier.Proofs.Service.Lifecycle
import Courier.Proofs.Service.Programs
import Courier.Proofs.Service.Rejected
import Courier.Proofs.Service.Sent
import Courier.Proofs.Service.Sequential
import Courier.Proofs.Service.Taken
import Courier.Proofs.Store.Index
import Courier.Proofs.Store.Keeping
import Courier.Proofs.Store.Masking
import Courier.Proofs.Store.Redis
import Courier.Proofs.Store.Sealing
import Courier.Proofs.Store.Unmasked
import Courier.Proofs.Stream
import Courier.Proofs.Text.Coding
import Courier.Proofs.Text.Cutting
import Courier.Proofs.Time.Calendar
import Courier.Proofs.Time.Reading
import Courier.Proofs.Value.Equality
import Courier.Proofs.Yaml.Decoded
import Courier.Registry
import Courier.Result.Basic
import Courier.Result.Json
import Courier.Result.Report
import Courier.Run.Context
import Courier.Run.Eval
import Courier.Run.Execute
import Courier.Run.Visit
import Courier.Run.Walk
import Courier.Schema.Basic
import Courier.Schema.Decl
import Courier.Service.Admission
import Courier.Service.Basic
import Courier.Service.Host
import Courier.Service.Job
import Courier.Service.Rejection
import Courier.Store.Basic
import Courier.Store.Contract
import Courier.Store.Defect
import Courier.Store.Depot
import Courier.Store.Layers
import Courier.Store.Masked
import Courier.Store.Memory
import Courier.Store.Redis
import Courier.Store.Sealed
import Courier.Stream
import Courier.Text.Base64
import Courier.Text.Blank
import Courier.Text.Case
import Courier.Text.Category
import Courier.Text.Distance
import Courier.Text.Fold
import Courier.Text.Order
import Courier.Text.Printable
import Courier.Text.Quoted
import Courier.Text.Truth
import Courier.Text.Utf8
import Courier.Time.Duration
import Courier.Time.Instant
import Courier.Value.Basic
import Courier.Value.Compare
import Courier.Value.Json
import Courier.Value.Show
import Courier.Yaml.Cursor
import Courier.Yaml.Load
import Courier.Yaml.Node
import Courier.Yaml.Plain
import Courier.Yaml.Scalar
import Courier.Yaml.Token
