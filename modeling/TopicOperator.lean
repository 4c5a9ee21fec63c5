import TopicOperator.Controller.Run
import TopicOperator.Main
import TopicOperator.TextMap.Lemmas
import TopicOperator.Proofs.TextMap.Keys
import TopicOperator.Proofs.Tag.Collapse
import TopicOperator.Proofs.Sync.TagDiff
import TopicOperator.Proofs.Sync.UpToDate
import TopicOperator.Proofs.Remote.Revision
import TopicOperator.Proofs.Remote.ClientCall
import TopicOperator.Proofs.Remote.Announcement
import TopicOperator.Proofs.Sync.Demand
import TopicOperator.Proofs.Pass.CarryOut
import TopicOperator.Proofs.Work.Rules
import TopicOperator.Proofs.Pass.Calm
import TopicOperator.Proofs.Pass.Stages
import TopicOperator.Proofs.Topic.Conditions
import TopicOperator.Proofs.Topic.Identity
import TopicOperator.Proofs.Pass.Faultless
import TopicOperator.Proofs.Pass.Convergence
import TopicOperator.Proofs.Pass.Continuation
import TopicOperator.Proofs.Pass.Applied
import TopicOperator.Proofs.Sync.Minimal
import TopicOperator.Proofs.Pass.DeclaredState
import TopicOperator.Proofs.Time.Calendar
import TopicOperator.Proofs.Number.Decimal
import TopicOperator.Proofs.Time.Stamp
import TopicOperator.Proofs.Time.Legible
import TopicOperator.Proofs.Json.Members
import TopicOperator.Proofs.Json.Record
import TopicOperator.Proofs.Json.Placeless
import TopicOperator.Proofs.Json.ScannedParts
import TopicOperator.Proofs.Json.Scanned
import TopicOperator.Proofs.Json.FreeForm
import TopicOperator.Proofs.Json.Written
import TopicOperator.Proofs.Topic.Slots
import TopicOperator.Proofs.Topic.WrittenStatus
import TopicOperator.Proofs.Topic.ReadBack
import TopicOperator.Proofs.Topic.WrittenParts
import TopicOperator.Proofs.Topic.RoundTrip
import TopicOperator.Proofs.Topic.Overlay
import TopicOperator.Proofs.Store.Patched
import TopicOperator.Proofs.Store.Faithful
import TopicOperator.Proofs.Store.MergedParts
import TopicOperator.Proofs.Store.UserEdit
import TopicOperator.Proofs.Work.Triple
import TopicOperator.Proofs.Pass.Lasting
import TopicOperator.Proofs.Pass.Mirror
import TopicOperator.Proofs.Pass.Run
import TopicOperator.Proofs.Pass.StoredTopic
import TopicOperator.Proofs.Pass.StoredParameters
import TopicOperator.Proofs.Pass.Remains
import TopicOperator.Proofs.Pass.FirstSight
import TopicOperator.Proofs.Work.Dialogue
import TopicOperator.Proofs.Pass.Account
import TopicOperator.Proofs.Pass.Telling
import TopicOperator.Proofs.Pass.StatusTold
import TopicOperator.Proofs.Pass.RecordedIdentity
import TopicOperator.Proofs.Pass.Operations
import TopicOperator.Proofs.Pass.Reports
import TopicOperator.Proofs.Pass.StatusAtRest
import TopicOperator.Proofs.Pass.Frame
import TopicOperator.Proofs.Pass.ClockReading
import TopicOperator.Proofs.Pass.SideBySide
import TopicOperator.Proofs.Store.StoredMetadata
import TopicOperator.Proofs.Controller.PassTold
import TopicOperator.Proofs.Controller.Guard
import TopicOperator.Proofs.Sync.LateInitialization
import TopicOperator.Proofs.Pass.Adoption
import TopicOperator.Proofs.Pass.Deletion
import TopicOperator.Proofs.Topic.Transitions
import TopicOperator.Proofs.Pass.OutcomeTold
import TopicOperator.Proofs.Pass.Execution
import TopicOperator.Proofs.Pass.History
import TopicOperator.Proofs.Pass.Indifference
import TopicOperator.Proofs.Pass.Cancellation
import TopicOperator.Proofs.Number.Numeral
import TopicOperator.Proofs.Topic.Reported
import TopicOperator.Proofs.Time.DateTime
import TopicOperator.Proofs.Schema.Conformance
import TopicOperator.Proofs.Topic.Fits
import TopicOperator.Proofs.Pass.DistinctTags
