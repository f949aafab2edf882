import DocumentStore.Answer
import DocumentStore.Binary64.Basic
import DocumentStore.Binary64.Decimal
import DocumentStore.Binary64.Layout
import DocumentStore.Binary64.Shortest
import DocumentStore.CommandLine
import DocumentStore.CommandLine.Arguments
import DocumentStore.CommandLine.Help
import DocumentStore.CommandLine.Signature
import DocumentStore.Config
import DocumentStore.Dataset
import DocumentStore.Document
import DocumentStore.Fault
import DocumentStore.Folder
import DocumentStore.Fresh
import DocumentStore.Json.Draft
import DocumentStore.Json.Number
import DocumentStore.Json.Printer
import DocumentStore.Json.Reader
import DocumentStore.Json.Record
import DocumentStore.Json.Value
import DocumentStore.Listener.Event
import DocumentStore.Listener.Registry
import DocumentStore.Main
import DocumentStore.Mutation.Basic
import DocumentStore.Patch.Basic
import DocumentStore.Patch.Operation
import DocumentStore.Patch.Reduce
import DocumentStore.Patch.Wire
import DocumentStore.Path.Expr
import DocumentStore.Path.Lookup
import DocumentStore.Path.Outline
import DocumentStore.Path.Parser
import DocumentStore.Path.Token
import DocumentStore.Path.Tokens
import DocumentStore.Proofs.Dataset.Notices
import DocumentStore.Proofs.Dataset.Writes
import DocumentStore.Proofs.Listener.DueEvents
import DocumentStore.Proofs.Listener.Queues
import DocumentStore.Proofs.Store.Runs
import DocumentStore.Query.Evaluator
import DocumentStore.Query.Filter
import DocumentStore.Query.Problem
import DocumentStore.Query.Reader
import DocumentStore.Store
import DocumentStore.Text.Blank
import DocumentStore.Text.Case
import DocumentStore.Text.CaseTable
import DocumentStore.Text.CharRange
import DocumentStore.Text.Digit
import DocumentStore.Text.Hidden
import DocumentStore.Text.Leading
import DocumentStore.Text.Listing
import DocumentStore.Text.Pieces
import DocumentStore.Text.Quoted
import DocumentStore.Text.Utf8
import DocumentStore.TextPatch.Basic
import DocumentStore.TextPatch.Reader
import DocumentStore.Proofs.Store.Streams
import DocumentStore.Proofs.Store.Replay
import DocumentStore.Proofs.Store.Replica
import DocumentStore.Proofs.Dataset.Ids
import DocumentStore.Proofs.Dataset.Changes
import DocumentStore.Proofs.Store.Snapshots
import DocumentStore.Proofs.Binary64.ReadBack
import DocumentStore.Proofs.Dataset.Separation
import DocumentStore.Proofs.Path.Lexing
import DocumentStore.Proofs.Path.Grammar
import DocumentStore.Proofs.Path.RoundTrip
import DocumentStore.Proofs.Path.Derivation
import DocumentStore.Proofs.Json.Fields
import DocumentStore.Proofs.Path.Route
import DocumentStore.Proofs.Path.Reach
import DocumentStore.Proofs.Patch.Edits
import DocumentStore.Proofs.Patch.ReadBack
import DocumentStore.Proofs.Json.Equality
import DocumentStore.Proofs.Patch.Independence
import DocumentStore.Proofs.Json.Records
import DocumentStore.Proofs.Mutation.ReadBack
import DocumentStore.Proofs.Store.ReadBack
import DocumentStore.Proofs.Patch.DistinctKeys
import DocumentStore.Proofs.Patch.Repetition
import DocumentStore.Proofs.Patch.Unwritten
import DocumentStore.Proofs.Patch.Insertion
import DocumentStore.Proofs.Binary64.Sums
import DocumentStore.Proofs.Binary64.Order
import DocumentStore.Proofs.Json.Numbers
import DocumentStore.Proofs.Patch.Anchors
import DocumentStore.Proofs.Patch.Calculations
import DocumentStore.Proofs.Patch.FirstKey
import DocumentStore.Proofs.Patch.Stepwise
import DocumentStore.Proofs.Store.Atomicity
import DocumentStore.Proofs.Patch.Verdict
import DocumentStore.Proofs.TextPatch.InPlace
import DocumentStore.Proofs.TextPatch.Nearest
import DocumentStore.Proofs.TextPatch.Drift
import DocumentStore.Proofs.Listener.Lifecycle
import DocumentStore.Proofs.Query.ReadBack
import DocumentStore.Proofs.TextPatch.Exactness
import DocumentStore.Proofs.Text.Escapes
import DocumentStore.Proofs.Query.Paths
import DocumentStore.Proofs.Query.Comparisons
import DocumentStore.Proofs.TextPatch.ReadBack
import DocumentStore.Proofs.Path.Spacing
import DocumentStore.Proofs.Path.Stray
import DocumentStore.Proofs.Patch.Removal
import DocumentStore.Proofs.Path.NumeralLookup
import DocumentStore.Proofs.Patch.CallOrder
import DocumentStore.Proofs.Json.Equivalence
import DocumentStore.Proofs.Path.LiteralValues
import DocumentStore.Proofs.Path.Walk
import DocumentStore.Proofs.Path.Progress
