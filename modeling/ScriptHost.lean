import ScriptHost.Backend.Basic
import ScriptHost.Backend.Remote
import ScriptHost.Backend.Worker
import ScriptHost.Channel.Message
import ScriptHost.Channel.Ndjson
import ScriptHost.Config.Basic
import ScriptHost.Config.Directory
import ScriptHost.Config.Path
import ScriptHost.Context.Basic
import ScriptHost.Context.Operation
import ScriptHost.Dict
import ScriptHost.Engine.Basic
import ScriptHost.Engine.Capabilities
import ScriptHost.Execution.Basic
import ScriptHost.Execution.Comparison
import ScriptHost.Execution.Form
import ScriptHost.Execution.Script
import ScriptHost.Failure
import ScriptHost.Json.Basic
import ScriptHost.Json.Form
import ScriptHost.Json.Printer
import ScriptHost.Json.Reader
import ScriptHost.Json.Token
import ScriptHost.Json.Tree
import ScriptHost.Number.Basic
import ScriptHost.Number.Double
import ScriptHost.Number.Numeral
import ScriptHost.Number.Shortest
import ScriptHost.Proofs.Backend.Adapter
import ScriptHost.Proofs.Backend.Breakdown
import ScriptHost.Proofs.Backend.Fault
import ScriptHost.Proofs.Backend.Liveness
import ScriptHost.Proofs.Backend.Mirror
import ScriptHost.Proofs.Backend.Raising
import ScriptHost.Proofs.Backend.Turn
import ScriptHost.Proofs.Channel.Delivery
import ScriptHost.Proofs.Channel.Exchange
import ScriptHost.Proofs.Channel.Message
import ScriptHost.Proofs.Config.File
import ScriptHost.Proofs.Config.Path
import ScriptHost.Proofs.Config.Saving
import ScriptHost.Proofs.Context.Action
import ScriptHost.Proofs.Context.Course
import ScriptHost.Proofs.Context.Disposal
import ScriptHost.Proofs.Context.Initialization
import ScriptHost.Proofs.Context.Interchange
import ScriptHost.Proofs.Context.Kinds
import ScriptHost.Proofs.Context.Lifecycle
import ScriptHost.Proofs.Context.Loss
import ScriptHost.Proofs.Context.Matching
import ScriptHost.Proofs.Context.Refusal
import ScriptHost.Proofs.Context.Simulation
import ScriptHost.Proofs.Context.Suspension
import ScriptHost.Proofs.Context.Transport
import ScriptHost.Proofs.Dict
import ScriptHost.Proofs.Engine.Record
import ScriptHost.Proofs.Execution.Forms
import ScriptHost.Proofs.Execution.Hashing
import ScriptHost.Proofs.Json.Fields
import ScriptHost.Proofs.Json.Indentation
import ScriptHost.Proofs.Json.Lines
import ScriptHost.Proofs.Json.Records
import ScriptHost.Proofs.Json.RoundTrip
import ScriptHost.Proofs.Json.Sameness
import ScriptHost.Proofs.Json.Spelling
import ScriptHost.Proofs.Lists
import ScriptHost.Proofs.Number.Reading
import ScriptHost.Proofs.Number.Writing
import ScriptHost.Proofs.Record.Detail
import ScriptHost.Proofs.Record.Grammar
import ScriptHost.Proofs.Record.Normal
import ScriptHost.Proofs.Record.RoundTrip
import ScriptHost.Proofs.Server.Answer
import ScriptHost.Proofs.Server.Batch
import ScriptHost.Proofs.Server.CallNumber
import ScriptHost.Proofs.Server.Command
import ScriptHost.Proofs.Server.Ending
import ScriptHost.Proofs.Server.Handling
import ScriptHost.Proofs.Server.Lifecycle
import ScriptHost.Proofs.Server.Serving
import ScriptHost.Proofs.Session.Capture
import ScriptHost.Proofs.Session.Course
import ScriptHost.Proofs.Session.Literal
import ScriptHost.Proofs.Session.Position
import ScriptHost.Proofs.Session.Preamble
import ScriptHost.Proofs.Session.Statement
import ScriptHost.Proofs.Snapshot.Binding
import ScriptHost.Proofs.Snapshot.Damage
import ScriptHost.Proofs.Snapshot.Envelope
import ScriptHost.Proofs.Text.Encoding
import ScriptHost.Proofs.Text.Lines
import ScriptHost.Record.Decode
import ScriptHost.Record.Encode
import ScriptHost.Recorded
import ScriptHost.Scripted.Backend
import ScriptHost.Scripted.Engine
import ScriptHost.Server.Basic
import ScriptHost.Server.Command
import ScriptHost.Server.Connection
import ScriptHost.Server.Stream
import ScriptHost.Session.Basic
import ScriptHost.Session.Literal
import ScriptHost.Snapshot.Blake3
import ScriptHost.Snapshot.Envelope
import ScriptHost.Text.Characters
import ScriptHost.Text.Identifier
import ScriptHost.Text.Lines
import ScriptHost.Text.Quoted
import ScriptHost.Text.Utf8
