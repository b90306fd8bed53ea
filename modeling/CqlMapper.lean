import CqlMapper.Change.Basic
import CqlMapper.Change.Merge
import CqlMapper.Codec.Basic
import CqlMapper.Codec.Element
import CqlMapper.Codec.FieldType
import CqlMapper.Codec.Tagged
import CqlMapper.Conditional.Basic
import CqlMapper.Conditional.Response
import CqlMapper.Config
import CqlMapper.Consistency.Level
import CqlMapper.Consistency.Resolver
import CqlMapper.CqlType
import CqlMapper.CqlValue.Basic
import CqlMapper.CqlValue.Serial
import CqlMapper.CqlValue.Shown
import CqlMapper.Decimal.Double
import CqlMapper.Decimal.Reading
import CqlMapper.Decimal.Shortest
import CqlMapper.Decimal.Style
import CqlMapper.Event
import CqlMapper.Exchange.Change
import CqlMapper.Exchange.Declaration
import CqlMapper.Exchange.Description
import CqlMapper.Exchange.Options
import CqlMapper.Exchange.Result
import CqlMapper.Exchange.Statement
import CqlMapper.Exchange.Types
import CqlMapper.FieldValue.Basic
import CqlMapper.FieldValue.Serial
import CqlMapper.FieldValue.Shown
import CqlMapper.Interceptor
import CqlMapper.Journal.Basic
import CqlMapper.Journal.Blake3
import CqlMapper.Journal.Tables
import CqlMapper.Json.Basic
import CqlMapper.Json.Fields
import CqlMapper.Json.Form
import CqlMapper.Json.Printer
import CqlMapper.Json.Reading
import CqlMapper.Keyed
import CqlMapper.MappingError
import CqlMapper.MessagePack.Reader
import CqlMapper.MessagePack.Writer
import CqlMapper.Record
import CqlMapper.Sample.Microblog
import CqlMapper.Schema.Entity
import CqlMapper.Schema.Property
import CqlMapper.Schema.Registry
import CqlMapper.Session.Batch
import CqlMapper.Session.Clock
import CqlMapper.Session.Flush
import CqlMapper.Session.Log
import CqlMapper.Session.Manager
import CqlMapper.Session.Tasks
import CqlMapper.Session.Workbench
import CqlMapper.Session.World
import CqlMapper.Statement.Basic
import CqlMapper.Statement.Generator
import CqlMapper.Store.Backend
import CqlMapper.Store.Error
import CqlMapper.Store.Result
import CqlMapper.Store.Scripted
import CqlMapper.Store.Submission
import CqlMapper.Text.Basic
import CqlMapper.Text.Hex
import CqlMapper.Text.LetterCase
import CqlMapper.Text.Number
import CqlMapper.Text.Printable
import CqlMapper.Text.Shown
import CqlMapper.Uuid
import CqlMapper.WriteError
import CqlMapper.WriteOptions
import CqlMapper.Proofs.Change.Mentions
import CqlMapper.Proofs.Change.Merging
import CqlMapper.Proofs.Change.NormalForm
import CqlMapper.Proofs.Change.Replay
import CqlMapper.Proofs.Change.WellFormed
import CqlMapper.Proofs.Codec.Rewriting
import CqlMapper.Proofs.Codec.RoundTrip
import CqlMapper.Proofs.Conditional.Reading
import CqlMapper.Proofs.Conditional.Verdict
import CqlMapper.Proofs.Consistency.Precedence
import CqlMapper.Proofs.CqlValue.Conformance
import CqlMapper.Proofs.CqlValue.Nesting
import CqlMapper.Proofs.FieldValue.Agreement
import CqlMapper.Proofs.FieldValue.Contents
import CqlMapper.Proofs.FieldValue.Equality
import CqlMapper.Proofs.FieldValue.Equivalence
import CqlMapper.Proofs.FieldValue.FirstSeen
import CqlMapper.Proofs.Journal.Accounting
import CqlMapper.Proofs.Journal.Appending
import CqlMapper.Proofs.Journal.Content
import CqlMapper.Proofs.Journal.Reading
import CqlMapper.Proofs.Json.Sameness
import CqlMapper.Proofs.Keyed
import CqlMapper.Proofs.Matching
import CqlMapper.Proofs.MessagePack.RoundTrip
import CqlMapper.Proofs.MessagePack.Sizes
import CqlMapper.Proofs.MessagePack.Tokens
import CqlMapper.Proofs.Outcome
import CqlMapper.Proofs.Record.Assigned
import CqlMapper.Proofs.Record.Atomicity
import CqlMapper.Proofs.Record.Collections
import CqlMapper.Proofs.Record.Facet
import CqlMapper.Proofs.Record.Tracking
import CqlMapper.Proofs.Record.Unrepeated
import CqlMapper.Proofs.Schema.Building
import CqlMapper.Proofs.Schema.Realization
import CqlMapper.Proofs.Schema.Registration
import CqlMapper.Proofs.Schema.WellFormed
import CqlMapper.Proofs.Session.Advancing
import CqlMapper.Proofs.Session.Callbacks
import CqlMapper.Proofs.Session.Calls
import CqlMapper.Proofs.Session.Envelopes
import CqlMapper.Proofs.Session.Flushing
import CqlMapper.Proofs.Session.Gathering
import CqlMapper.Proofs.Session.Guards
import CqlMapper.Proofs.Session.HandOver
import CqlMapper.Proofs.Session.Immediate
import CqlMapper.Proofs.Session.Interception
import CqlMapper.Proofs.Session.Moves
import CqlMapper.Proofs.Session.NativeUpdates
import CqlMapper.Proofs.Session.Ordering
import CqlMapper.Proofs.Session.Performing
import CqlMapper.Proofs.Session.Preparing
import CqlMapper.Proofs.Session.Removal
import CqlMapper.Proofs.Session.SerialLevels
import CqlMapper.Proofs.Session.SerialRuns
import CqlMapper.Proofs.Session.Stamping
import CqlMapper.Proofs.Session.Together
import CqlMapper.Proofs.Session.Transcript
import CqlMapper.Proofs.Session.Unsaved
import CqlMapper.Proofs.Session.Visits
import CqlMapper.Proofs.Session.Waiting
import CqlMapper.Proofs.Session.WriteLevels
import CqlMapper.Proofs.Statement.Binding
import CqlMapper.Proofs.Statement.Columns
import CqlMapper.Proofs.Statement.Conditions
import CqlMapper.Proofs.Statement.Coverage
import CqlMapper.Proofs.Statement.Isolation
import CqlMapper.Proofs.Statement.Layout
import CqlMapper.Proofs.Statement.Mismatch
import CqlMapper.Proofs.Statement.Parts
import CqlMapper.Proofs.Statement.Recognition
import CqlMapper.Proofs.Statement.Timestamps
import CqlMapper.Proofs.Statement.Typing
import CqlMapper.Proofs.Statement.Wording
import CqlMapper.Proofs.Statement.Words
import CqlMapper.Proofs.Text.Utf8
