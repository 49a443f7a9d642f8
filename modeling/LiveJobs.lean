import LiveJobs.Call
import LiveJobs.Cancellation
import LiveJobs.CommandLine.Arguments
import LiveJobs.CommandLine.Complaint
import LiveJobs.CommandLine.Performance
import LiveJobs.Decimal.Scaled
import LiveJobs.Decimal.Shortest
import LiveJobs.Event.Basic
import LiveJobs.Event.Frame
import LiveJobs.Event.LineDecoder
import LiveJobs.Event.Routing
import LiveJobs.Event.Wire
import LiveJobs.Fault
import LiveJobs.Http.Address
import LiveJobs.Http.Exchange
import LiveJobs.Http.Request
import LiveJobs.Ident
import LiveJobs.Job.Basic
import LiveJobs.Job.Page
import LiveJobs.Job.Patch
import LiveJobs.Job.Wire
import LiveJobs.Json.Basic
import LiveJobs.Json.Outline
import LiveJobs.Json.Reader
import LiveJobs.Json.Record
import LiveJobs.Json.Skim
import LiveJobs.Json.Token
import LiveJobs.Json.Writer
import LiveJobs.Main
import LiveJobs.Merge.Entry
import LiveJobs.Merge.Field
import LiveJobs.Merge.JobMap
import LiveJobs.Merge.Overlay
import LiveJobs.Merge.Stamps
import LiveJobs.Poll.Active
import LiveJobs.Poll.Bulk
import LiveJobs.Poll.Single
import LiveJobs.Poll.Ticker
import LiveJobs.Proofs.Changes
import LiveJobs.Proofs.Chunks
import LiveJobs.Proofs.Comparison
import LiveJobs.Proofs.CutStream
import LiveJobs.Proofs.Delimiting
import LiveJobs.Proofs.DeliveryOrder
import LiveJobs.Proofs.Freshness
import LiveJobs.Proofs.Grammar
import LiveJobs.Proofs.IdlePoll
import LiveJobs.Proofs.InFlight
import LiveJobs.Proofs.Lifecycle
import LiveJobs.Proofs.Merging
import LiveJobs.Proofs.Operations
import LiveJobs.Proofs.Overlay
import LiveJobs.Proofs.Replay
import LiveJobs.Proofs.Resumption
import LiveJobs.Proofs.Sources
import LiveJobs.Proofs.Visibility
import LiveJobs.Push.Connection
import LiveJobs.Push.State
import LiveJobs.Rehearsal.Marks
import LiveJobs.Rehearsal.Once
import LiveJobs.Rehearsal.Script
import LiveJobs.Rehearsal.Stage
import LiveJobs.Rehearsal.Wire
import LiveJobs.Retry
import LiveJobs.Session
import LiveJobs.Settings.Basic
import LiveJobs.Settings.Wire
import LiveJobs.Store.Basic
import LiveJobs.Store.Clock
import LiveJobs.Store.Snapshot
import LiveJobs.Store.Wire
import LiveJobs.Text.Blank
import LiveJobs.Text.Digits
import LiveJobs.Text.Percent
import LiveJobs.Text.Pictureless
import LiveJobs.Text.Quoted
import LiveJobs.Text.Utf8
import LiveJobs.Time.Civil
import LiveJobs.Time.Instant
import LiveJobs.Time.Rfc3339
import LiveJobs.Proofs.DisplayedPage
import LiveJobs.Proofs.ListView
import LiveJobs.Proofs.CancelRequests
import LiveJobs.Proofs.FiniteDoubles
import LiveJobs.Proofs.Calendar
import LiveJobs.Proofs.WrittenInstants
import LiveJobs.Proofs.CanonicalValues
import LiveJobs.Proofs.RecordFields
import LiveJobs.Proofs.WireForms
import LiveJobs.Proofs.ConnectionStates
import LiveJobs.Proofs.Timely
import LiveJobs.Proofs.ActiveRequests
import LiveJobs.Proofs.PageRequests
import LiveJobs.Proofs.PageRhythm
import LiveJobs.Proofs.RetryLoop
import LiveJobs.Proofs.SingleRequests
import LiveJobs.Proofs.ExactOutcomes
import LiveJobs.Proofs.FullRecords
import LiveJobs.Proofs.ByteOrder
import LiveJobs.Proofs.ActiveSet
import LiveJobs.Proofs.ReconnectDelays
import LiveJobs.Proofs.PushedUpdates
import LiveJobs.Proofs.Watching
import LiveJobs.Proofs.ActiveResources
import LiveJobs.Proofs.LastSequence
import LiveJobs.Proofs.Numerals
import LiveJobs.Proofs.AcceptedSettings
import LiveJobs.Proofs.PathSegments
import LiveJobs.Proofs.PercentDecoding
import LiveJobs.Proofs.TargetNames
import LiveJobs.Proofs.RequestTargets
