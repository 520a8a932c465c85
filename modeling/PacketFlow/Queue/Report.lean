import PacketFlow.Event
import PacketFlow.Failure

/-! What callers hold of a queued packet, and what a send tells them. -/

set_option autoImplicit false

namespace PacketFlow

/-- Handle to a queued packet. It stays usable after the packet has left its queue. -/
structure Ticket where
  event : EventId
  marker : MarkerId
  deriving DecidableEq, Repr

/-- The outcome of a send. Rejected and failed events are handed back. -/
structure Report where
  sent : Nat := 0
  /-- How many cancelled packets were dropped. -/
  cancelled : Nat := 0
  expired : List Event := []
  failed : List (Event × MarkerFailure) := []
  deriving DecidableEq, Repr

namespace Report

/-- Nothing was sent, dropped, rejected or handed back. -/
def isEmpty (report : Report) : Bool :=
  report.sent == 0 && report.cancelled == 0 && report.expired.isEmpty && report.failed.isEmpty

/-- Count the answer of a stream to an event. -/
def record (report : Report) (event : Event) : Except MarkerFailure Unit → Report
  | .ok () => { report with sent := report.sent + 1 }
  | .error failure => { report with failed := report.failed ++ [(event, failure)] }

end Report

end PacketFlow
