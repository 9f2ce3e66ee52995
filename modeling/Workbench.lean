import Workbench.Catalog.Basic
import Workbench.Catalog.Change
import Workbench.Catalog.Command
import Workbench.Catalog.Definition
import Workbench.Catalog.Describe
import Workbench.Catalog.Load
import Workbench.Catalog.Utility
import Workbench.Chat
import Workbench.Command.Resolve
import Workbench.Command.Token
import Workbench.Config
import Workbench.Courier
import Workbench.Decimal.Binary
import Workbench.Decimal.Digits
import Workbench.Decimal.Print
import Workbench.Decimal.Read
import Workbench.Dialogue
import Workbench.Fields
import Workbench.Files.Action
import Workbench.Files.Index
import Workbench.Files.Manifest
import Workbench.Files.Mime
import Workbench.Files.Path
import Workbench.Files.Shell
import Workbench.Files.Store
import Workbench.Files.Tree
import Workbench.Files.Words
import Workbench.Json.Encoding
import Workbench.Json.Parser
import Workbench.Json.Printer
import Workbench.Kernel
import Workbench.Main
import Workbench.Narrator
import Workbench.Notice
import Workbench.Number
import Workbench.Proofs.Catalog.Coverage
import Workbench.Proofs.Catalog.Refusal
import Workbench.Proofs.Command.Binding
import Workbench.Proofs.Command.Condition
import Workbench.Proofs.Command.Quotes
import Workbench.Proofs.Command.Resolve
import Workbench.Proofs.Command.Selection
import Workbench.Proofs.Command.Token
import Workbench.Proofs.Decimal.Exact
import Workbench.Proofs.Decimal.NaN
import Workbench.Proofs.Decimal.Nearest
import Workbench.Proofs.Decimal.Numeral
import Workbench.Proofs.Decimal.Order
import Workbench.Proofs.Decimal.Rounding
import Workbench.Proofs.Decimal.Shortest
import Workbench.Proofs.Decimal.Stored
import Workbench.Proofs.Fields
import Workbench.Proofs.Files.Branch
import Workbench.Proofs.Files.Echo
import Workbench.Proofs.Files.Index
import Workbench.Proofs.Files.Listing
import Workbench.Proofs.Files.Opens
import Workbench.Proofs.Files.Page
import Workbench.Proofs.Files.Replay
import Workbench.Proofs.Files.Tree
import Workbench.Proofs.Files.Way
import Workbench.Proofs.Files.Writing
import Workbench.Proofs.Json.Limit
import Workbench.Proofs.Json.Number
import Workbench.Proofs.Json.RoundTrip
import Workbench.Proofs.Kernel.Frame
import Workbench.Proofs.Kernel.Free
import Workbench.Proofs.Kernel.NaN
import Workbench.Proofs.Kernel.Range
import Workbench.Proofs.Outcome
import Workbench.Proofs.Schema
import Workbench.Proofs.Service.Conservation
import Workbench.Proofs.Service.Outbox
import Workbench.Proofs.Session.Crew
import Workbench.Proofs.Session.Cut
import Workbench.Proofs.Session.Fresh
import Workbench.Proofs.Session.Growth
import Workbench.Proofs.Session.Isolation
import Workbench.Proofs.Session.Log
import Workbench.Proofs.Session.Metrics
import Workbench.Proofs.Session.NaN
import Workbench.Proofs.Session.Opens
import Workbench.Proofs.Session.Operation
import Workbench.Proofs.Session.Preview
import Workbench.Proofs.Session.Serve
import Workbench.Proofs.Session.Start
import Workbench.Proofs.Session.Told
import Workbench.Proofs.Session.Turn
import Workbench.Proofs.State.Assignment
import Workbench.Proofs.State.Batch
import Workbench.Proofs.State.Effect
import Workbench.Proofs.State.Frame
import Workbench.Proofs.State.Interference
import Workbench.Proofs.State.Items
import Workbench.Proofs.State.Metrics
import Workbench.Proofs.State.NaN
import Workbench.Proofs.State.Numbers
import Workbench.Proofs.State.Operand
import Workbench.Proofs.State.OrderedSet
import Workbench.Proofs.State.Overrides
import Workbench.Proofs.State.Range
import Workbench.Proofs.State.Scale
import Workbench.Proofs.State.Seeding
import Workbench.Proofs.Sync.Answers
import Workbench.Proofs.Sync.Attended
import Workbench.Proofs.Sync.Codec
import Workbench.Proofs.Sync.Copies
import Workbench.Proofs.Sync.Course
import Workbench.Proofs.Sync.Delivery
import Workbench.Proofs.Sync.Envelope
import Workbench.Proofs.Sync.Errand
import Workbench.Proofs.Sync.Gate
import Workbench.Proofs.Sync.InStep
import Workbench.Proofs.Sync.Ledger
import Workbench.Proofs.Sync.Life
import Workbench.Proofs.Sync.LifeCycle
import Workbench.Proofs.Sync.Loop
import Workbench.Proofs.Sync.Moment
import Workbench.Proofs.Sync.Order
import Workbench.Proofs.Sync.Plain
import Workbench.Proofs.Sync.Portal
import Workbench.Proofs.Sync.Primary
import Workbench.Proofs.Sync.Resync
import Workbench.Proofs.Sync.Run
import Workbench.Proofs.Sync.Sending
import Workbench.Proofs.Sync.Waiting
import Workbench.Proofs.Sync.Wire
import Workbench.Proofs.Sync.Workshop
import Workbench.Proofs.Template.Render
import Workbench.Proofs.Template.Scan
import Workbench.Proofs.Text.Cut
import Workbench.Rehearsal
import Workbench.Schema
import Workbench.Service.Basic
import Workbench.Service.Local
import Workbench.Service.Request
import Workbench.Session
import Workbench.Session.Authority
import Workbench.State.Basic
import Workbench.State.Gauge
import Workbench.State.Mutation
import Workbench.State.Overrides
import Workbench.Sync.Exchange
import Workbench.Sync.Loop
import Workbench.Sync.Message
import Workbench.Sync.Outbox
import Workbench.Sync.Portal
import Workbench.Sync.Primary
import Workbench.Sync.Snapshot
import Workbench.Sync.Workshop
import Workbench.Template
import Workbench.Text.Blank
import Workbench.Text.Cut
import Workbench.Text.Decode
import Workbench.Text.Digit
import Workbench.Text.Printable
import Workbench.Text.Quoted
import Workbench.Text.Upper
import Workbench.Value.Basic
import Workbench.Value.Display
import Workbench.View.Drawing
import Workbench.View.Feed
import Workbench.View.Terminal
