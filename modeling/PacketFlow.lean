import PacketFlow.Admission
import PacketFlow.Admission.Defaults
import PacketFlow.Capability
import PacketFlow.Capability.Resolver
import PacketFlow.Deferrals
import PacketFlow.Duration
import PacketFlow.Duration.Json
import PacketFlow.Event
import PacketFlow.Failure
import PacketFlow.Json
import PacketFlow.Json.Lexer
import PacketFlow.Json.Printer
import PacketFlow.Json.Reader
import PacketFlow.Json.Record
import PacketFlow.Listener
import PacketFlow.Listener.Cursor
import PacketFlow.Marker
import PacketFlow.Marker.Display
import PacketFlow.Marker.Order
import PacketFlow.Marker.Restore
import PacketFlow.Markers
import PacketFlow.Notice
import PacketFlow.Packet
import PacketFlow.Pipeline
import PacketFlow.Priority
import PacketFlow.Priority.Json
import PacketFlow.Proofs.Asynchrony
import PacketFlow.Proofs.Bookkeeping
import PacketFlow.Proofs.Clearance
import PacketFlow.Proofs.Conservation
import PacketFlow.Proofs.Custody
import PacketFlow.Proofs.Deadline
import PacketFlow.Proofs.Delivery
import PacketFlow.Proofs.Drain
import PacketFlow.Proofs.Entries
import PacketFlow.Proofs.Eviction
import PacketFlow.Proofs.Exhaustion
import PacketFlow.Proofs.Extent
import PacketFlow.Proofs.Fields
import PacketFlow.Proofs.Fixpoint
import PacketFlow.Proofs.Grammar
import PacketFlow.Proofs.Handover
import PacketFlow.Proofs.Indifference
import PacketFlow.Proofs.Labels
import PacketFlow.Proofs.LastDeferral
import PacketFlow.Proofs.Order
import PacketFlow.Proofs.Precedence
import PacketFlow.Proofs.Progress
import PacketFlow.Proofs.Rearrangement
import PacketFlow.Proofs.Reentry
import PacketFlow.Proofs.Refusals
import PacketFlow.Proofs.Release
import PacketFlow.Proofs.Restoration
import PacketFlow.Proofs.RoundTrip
import PacketFlow.Proofs.Run
import PacketFlow.Proofs.Settlement
import PacketFlow.Proofs.Sorting
import PacketFlow.Proofs.StaleTicket
import PacketFlow.Proofs.Step
import PacketFlow.Proofs.Tables
import PacketFlow.Proofs.Takings
import PacketFlow.Proofs.Termination
import PacketFlow.Proofs.Transmission
import PacketFlow.Proofs.Traversal
import PacketFlow.Queue
import PacketFlow.Queue.Backlog
import PacketFlow.Queue.Release
import PacketFlow.Queue.Report
import PacketFlow.Saturation
import PacketFlow.Scenario
import PacketFlow.Scenario.Answer
import PacketFlow.Scenario.Command
import PacketFlow.Scenario.Plan
import PacketFlow.Scenario.Table
import PacketFlow.Scenario.World
import PacketFlow.Snapshot
import PacketFlow.Snapshot.Json
import PacketFlow.Text.Blank
import PacketFlow.Version
