import Metasearch.Cache
import Metasearch.Command.Arguments
import Metasearch.Command.Delay
import Metasearch.Command.Moment
import Metasearch.Command.Transcript
import Metasearch.Config.Basic
import Metasearch.Config.Document
import Metasearch.Config.Validation
import Metasearch.Coordinator.Basic
import Metasearch.Coordinator.Handle
import Metasearch.Coordinator.Overlap
import Metasearch.Crash
import Metasearch.Decimal.Layout
import Metasearch.Decimal.Read
import Metasearch.Decimal.Shortest
import Metasearch.Dispatch.Collection
import Metasearch.Dispatch.Interleaving
import Metasearch.Dispatch.Report
import Metasearch.Dispatch.Schedule
import Metasearch.Document.Record
import Metasearch.Document.Value
import Metasearch.Duration
import Metasearch.Duration.Document
import Metasearch.Engine.Adapter
import Metasearch.Engine.Document
import Metasearch.Engine.Failure
import Metasearch.Engine.Id
import Metasearch.Engine.Script
import Metasearch.Error
import Metasearch.Health.Document
import Metasearch.Health.Event
import Metasearch.Health.Operation
import Metasearch.Health.State
import Metasearch.Health.Tracker
import Metasearch.Json.Printer
import Metasearch.Json.Reader
import Metasearch.Main
import Metasearch.Policy.Backoff
import Metasearch.Policy.Document
import Metasearch.Policy.Suspension
import Metasearch.Query.Document
import Metasearch.Query.Request
import Metasearch.Random.Draw
import Metasearch.Random.Stream
import Metasearch.Ranking.Merge
import Metasearch.Ranking.Score
import Metasearch.Response
import Metasearch.Response.Document
import Metasearch.Result.Basic
import Metasearch.Result.Document
import Metasearch.Settings.Basic
import Metasearch.Settings.Document
import Metasearch.Settings.Error
import Metasearch.Settings.Place
import Metasearch.Simulated.Config
import Metasearch.Simulated.Document
import Metasearch.Simulated.Engine
import Metasearch.Soak.Document
import Metasearch.Soak.Report
import Metasearch.Soak.Run
import Metasearch.Text.AlphanumericTable
import Metasearch.Text.Blank
import Metasearch.Text.Case
import Metasearch.Text.CasingTable
import Metasearch.Text.LowercaseTable
import Metasearch.Text.Ranges
import Metasearch.Text.Utf8
import Metasearch.Toml.Printer
import Metasearch.Toml.Quoted
import Metasearch.Toml.Reader
import Metasearch.Toml.Scalar
import Metasearch.Toml.Tree
import Metasearch.Url.Basic
import Metasearch.Url.Form
import Metasearch.Url.Host
import Metasearch.Url.Idna.Compose
import Metasearch.Url.Idna.ComposeTable
import Metasearch.Url.Idna.CompositionTable
import Metasearch.Url.Idna.DirectionTable
import Metasearch.Url.Idna.Domain
import Metasearch.Url.Idna.JoiningTable
import Metasearch.Url.Idna.Label
import Metasearch.Url.Idna.MappingTable
import Metasearch.Url.Idna.Punycode
import Metasearch.Url.Normal
import Metasearch.Url.Parser
import Metasearch.Url.Path
import Metasearch.Url.Percent
import Metasearch.Proofs.Dispatch.Collection
import Metasearch.Proofs.Dispatch.Timetable
import Metasearch.Proofs.Dispatch.Outcomes
import Metasearch.Proofs.Dispatch.Deadline
import Metasearch.Proofs.Dispatch.Isolation
import Metasearch.Proofs.Dispatch.Concurrency
import Metasearch.Proofs.Dispatch.Calls
import Metasearch.Proofs.Dispatch.Lost
import Metasearch.Proofs.Dispatch.Rounds
import Metasearch.Proofs.Policy.Lengths
import Metasearch.Proofs.Engine.Order
import Metasearch.Proofs.Health.Selection
import Metasearch.Proofs.Health.States
import Metasearch.Proofs.Health.History
import Metasearch.Proofs.Health.Known
import Metasearch.Proofs.Health.Relapses
import Metasearch.Proofs.Health.Splitting
import Metasearch.Proofs.Ranking.Provenance
import Metasearch.Proofs.Ranking.Groups
import Metasearch.Proofs.Ranking.Completeness
import Metasearch.Proofs.Ranking.TotalOrder
import Metasearch.Proofs.Ranking.Order
import Metasearch.Proofs.Ranking.Summaries
import Metasearch.Proofs.Ranking.Reordering
import Metasearch.Proofs.Coordinator.Built
import Metasearch.Proofs.Coordinator.Handle
import Metasearch.Proofs.Coordinator.Accounting
import Metasearch.Proofs.Coordinator.Credit
import Metasearch.Proofs.Coordinator.Deadlines
import Metasearch.Proofs.Coordinator.Contacts
import Metasearch.Proofs.Coordinator.Runs
import Metasearch.Proofs.Coordinator.Caching
import Metasearch.Proofs.Coordinator.Resting
import Metasearch.Proofs.Coordinator.Refusals
import Metasearch.Proofs.Coordinator.Agreement
import Metasearch.Proofs.Coordinator.Timeouts
import Metasearch.Proofs.Coordinator.Resets
import Metasearch.Proofs.Coordinator.Building
import Metasearch.Proofs.Coordinator.Reloading
import Metasearch.Proofs.Coordinator.Crashes
import Metasearch.Proofs.Text.Bytes
import Metasearch.Proofs.Text.Pieces
import Metasearch.Proofs.Url.Escapes
import Metasearch.Proofs.Url.Form
import Metasearch.Proofs.Url.Parameters
import Metasearch.Proofs.Url.Authority
import Metasearch.Proofs.Url.Paths
import Metasearch.Proofs.Url.Schemes
import Metasearch.Proofs.Url.Marks
import Metasearch.Proofs.Url.Fragment
import Metasearch.Proofs.Url.Keys
import Metasearch.Proofs.Url.NormalForm
import Metasearch.Proofs.Ranking.Copies
import Metasearch.Proofs.Decimal.Rounding
import Metasearch.Proofs.Decimal.Packing
import Metasearch.Proofs.Decimal.Shortest
import Metasearch.Proofs.Decimal.Reading
import Metasearch.Proofs.Decimal.Numerals
import Metasearch.Proofs.Document.Fields
import Metasearch.Proofs.Document.Records
import Metasearch.Proofs.Toml.Texts
import Metasearch.Proofs.Toml.Numbers
import Metasearch.Proofs.Toml.Floats
import Metasearch.Proofs.Toml.Values
import Metasearch.Proofs.Toml.Lines
import Metasearch.Proofs.Toml.Places
import Metasearch.Proofs.Toml.RoundTrip
import Metasearch.Proofs.Toml.Records
import Metasearch.Proofs.Settings.Saving
import Metasearch.Proofs.Json.Texts
import Metasearch.Proofs.Json.Numbers
import Metasearch.Proofs.Json.RoundTrip
import Metasearch.Proofs.Json.Records
import Metasearch.Proofs.Coordinator.Addresses
import Metasearch.Proofs.Health.Suspensions
import Metasearch.Proofs.Soak.Searches
import Metasearch.Proofs.Cache.Keys
import Metasearch.Proofs.Coordinator.Listed
import Metasearch.Proofs.Soak.Tallies
import Metasearch.Proofs.Simulated.Hits
import Metasearch.Health.Operation
import Metasearch.Proofs.Health.Reports
import Metasearch.Proofs.Settings.Building
import Metasearch.Proofs.Health.Reports
import Metasearch.Proofs.Settings.Building
import Metasearch.Proofs.Simulated.Hits
