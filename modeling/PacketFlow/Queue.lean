import PacketFlow.Queue.Release
import PacketFlow.Queue.Report

/-! Sending queues.

A queue holds packets back until they may be transmitted in order. Markers are shared with the
rest of the process and record the index under which their packet is held, so each operation here
takes the markers along.
-/

set_option autoImplicit false

namespace PacketFlow

abbrev QueueId := Nat

structure Queue where
  backlog : Backlog := .empty
  /-- An operation is at work on the backlog. -/
  locked : Bool := false
  /-- A send is under way; only one transmits at a time. -/
  draining : Bool := false
  /-- Another send was asked for meanwhile, so the one under way takes another look. -/
  rerun : Bool := false

namespace Queue

/-- Take the backlog for one operation, unless another has it. -/
def lock? (queue : Queue) : Option Queue :=
  if queue.locked then none else some { queue with locked := true }

def unlock (queue : Queue) : Queue := { queue with locked := false }

def enqueue (queue : Queue) (markers : Markers) (event : Event) (marker : MarkerId) :
    Queue × Markers × List Notice :=
  let index := (markers.get marker).newIndex
  ({ queue with backlog := queue.backlog.insert ⟨index, event.id⟩ event },
    markers.setQueued marker (some index),
    [.queued event.id index])

/-- Move a packet whose new index differs from the one it is held under. Nothing is moved when the
marker is not queued or the queue holds nothing under its key. -/
def reposition (queue : Queue) (markers : Markers) (ticket : Ticket) :
    Bool × Queue × Markers × List Notice :=
  let marker := markers.get ticket.marker
  match marker.queuedIndex with
  | none => (false, queue, markers, [])
  | some old =>
    let new := marker.newIndex
    if old = new then (false, queue, markers, [])
    else
      match queue.backlog.find? ⟨old, ticket.event⟩ with
      | none => (false, queue, markers, [])
      | some event =>
        (true,
          { queue with
            backlog := (queue.backlog.erase ⟨old, ticket.event⟩).insert ⟨new, ticket.event⟩ event },
          markers.setQueued ticket.marker (some new),
          [.moved ticket.event old new])

/-- Take a packet out without sending it. A marker that is not queued counts as held under index
zero. -/
def remove (queue : Queue) (markers : Markers) (ticket : Ticket) :
    Option Event × Queue × Markers :=
  let key : Key := ⟨(markers.get ticket.marker).queuedOrZero, ticket.event⟩
  match queue.backlog.find? key with
  | none => (none, queue, markers)
  | some event =>
    (some event, { queue with backlog := queue.backlog.erase key },
      markers.setQueued ticket.marker none)

/-- Take out every packet whose deadline has passed, wherever it stands. -/
def evict (queue : Queue) (markers : Markers) (now : UInt64) : List Event × Queue × Markers :=
  let parts := queue.backlog.partition fun entry => markers.isOverdue now entry.2
  let events := parts.1.map (·.2)
  (events, { queue with backlog := parts.2 }, events.foldl Markers.clearQueued markers)

def release (queue : Queue) (markers : Markers) (now : UInt64) : Queue × Release :=
  let released := Release.heads now queue.backlog.entries markers
  ({ queue with
      backlog := queue.backlog.ofSuffix released.left (Release.left_suffix now _ markers) },
    released)

end Queue

end PacketFlow
