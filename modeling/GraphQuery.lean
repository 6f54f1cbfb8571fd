import GraphQuery.Address
import GraphQuery.Choice
import GraphQuery.Endpoint
import GraphQuery.Equality
import GraphQuery.Error
import GraphQuery.Error.Kind
import GraphQuery.Fault
import GraphQuery.Heap.Basic
import GraphQuery.Heap.Build
import GraphQuery.Heap.Call
import GraphQuery.Identifier
import GraphQuery.Json.Token
import GraphQuery.Json.Value
import GraphQuery.Number.DecimalText
import GraphQuery.Number.IntegerText
import GraphQuery.Number.Shortest
import GraphQuery.Path
import GraphQuery.Plain
import GraphQuery.Result.Attribute
import GraphQuery.Result.Envelope
import GraphQuery.Result.Record
import GraphQuery.Result.Row
import GraphQuery.Result.Schema
import GraphQuery.Selector
import GraphQuery.Series
import GraphQuery.Session.Basic
import GraphQuery.Session.Call
import GraphQuery.Session.Contents
import GraphQuery.Session.Report
import GraphQuery.Session.Results
import GraphQuery.Session.Search
import GraphQuery.Session.Signatures
import GraphQuery.Settings.Basic
import GraphQuery.Settings.Fault
import GraphQuery.Settings.NumberText
import GraphQuery.Signature
import GraphQuery.Text.Capital
import GraphQuery.Text.CodePoint
import GraphQuery.Text.Composition
import GraphQuery.Text.Display
import GraphQuery.Text.Equivalent
import GraphQuery.Text.IdentifierChar
import GraphQuery.Text.LowerCase
import GraphQuery.Text.Mark
import GraphQuery.Text.MarkClass
import GraphQuery.Text.NormalForm
import GraphQuery.Text.Printable
import GraphQuery.Text.Quote
import GraphQuery.Text.Utf8
import GraphQuery.Text.Variant
import GraphQuery.Transport.Basic
import GraphQuery.Transport.Http
import GraphQuery.Traversal
import GraphQuery.Url.Address
import GraphQuery.Url.Direction
import GraphQuery.Url.Host
import GraphQuery.Url.Joining
import GraphQuery.Url.Label
import GraphQuery.Url.LabelChar
import GraphQuery.Url.Percent
import GraphQuery.Url.Punycode
import GraphQuery.Url.Script
import GraphQuery.Url.Split
import GraphQuery.Value
import GraphQuery.Workspace.Access
import GraphQuery.Workspace.Basic
import GraphQuery.Workspace.Build
import GraphQuery.Workspace.Command
import GraphQuery.Proofs.Action
import GraphQuery.Proofs.Extension
import GraphQuery.Proofs.Effect
import GraphQuery.Proofs.Run
import GraphQuery.Proofs.Gate
import GraphQuery.Proofs.Followed
import GraphQuery.Proofs.Script.Token
import GraphQuery.Proofs.Script.Reading
import GraphQuery.Proofs.Script.Parser
import GraphQuery.Proofs.Script.Query
import GraphQuery.Proofs.Script.Reference
import GraphQuery.Proofs.Failure
import GraphQuery.Proofs.Segments
import GraphQuery.Proofs.Saved
import GraphQuery.Proofs.Script.Outline
import GraphQuery.Proofs.Flags
import GraphQuery.Proofs.Alike
import GraphQuery.Proofs.FirstSeen
import GraphQuery.Proofs.Members
import GraphQuery.Proofs.Json.Distinct
import GraphQuery.Proofs.Result.Acceptance
import GraphQuery.Proofs.Text.Utf8
import GraphQuery.Proofs.Json.Layout
import GraphQuery.Proofs.Result.RoundTrip
import GraphQuery.Proofs.Locality
import GraphQuery.Proofs.Operation
import GraphQuery.Proofs.Beside
import GraphQuery.Proofs.Isolation
import GraphQuery.Proofs.Naming
import GraphQuery.Proofs.Calls
import GraphQuery.Proofs.Absorption
import GraphQuery.Proofs.Compilation
import GraphQuery.Proofs.Json.Writing
import GraphQuery.Proofs.Json.Grammar
import GraphQuery.Proofs.Json.Reading
import GraphQuery.Proofs.Replies
import GraphQuery.Proofs.Text.WellFormed
import GraphQuery.Proofs.Result.Bytes
import GraphQuery.Proofs.Transport.Exchange
import GraphQuery.Proofs.Transport.Line
import GraphQuery.Proofs.Transport.Usage
import GraphQuery.Proofs.Ascii
import GraphQuery.Proofs.Number.IntegerText
import GraphQuery.Proofs.Url.Host
import GraphQuery.Proofs.Url.Split
import GraphQuery.Proofs.Url.Leading
import GraphQuery.Proofs.Url.Reader
import GraphQuery.Proofs.Url.Endpoint
import GraphQuery.Proofs.Result.Columns
import GraphQuery.Proofs.Result.Deserialization
import GraphQuery.Proofs.Script.Arguments
import GraphQuery.Proofs.Slot
import GraphQuery.Proofs.Interchange
import GraphQuery.Proofs.Script.Delimiter
import GraphQuery.Proofs.Heap.State
import GraphQuery.Proofs.Heap.Growth
import GraphQuery.Proofs.Heap.Likeness
import GraphQuery.Proofs.Heap.Snapshot
import GraphQuery.Proofs.Heap.Representation
import GraphQuery.Proofs.Heap.Refinement
import GraphQuery.Proofs.Heap.Independence
import GraphQuery.Proofs.Heap.CallTree
import GraphQuery.Proofs.Heap.Life
