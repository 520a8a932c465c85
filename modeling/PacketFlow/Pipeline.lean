import PacketFlow.Queue

/-! The sending pipeline as a machine.

All markers and queues of a process make up the state, together with the sends that wait for the
answer of a stream. A caller performs one action at a time. When an action needs a stream, the
machine replies with the call and opens a frame; the caller answers the innermost call when the
stream returns. Whatever a stream does before it returns is performed as further actions while the
frame is open, so calls that come back into a queue from inside a stream need no treatment of
their own.

A send releases the heads of its queue under the lock of the queue and transmits them one by one
with the lock free. Only one send per queue transmits at a time: one that is asked for meanwhile
leaves a mark and reports nothing, and the send under way looks at the queue again before it ends.
After that last look nothing can leave a mark, so ending the send and clearing the guard are one
step here.
-/

set_option autoImplicit false

namespace PacketFlow

abbrev Outcome := Except StreamFailure Unit

/-- A call to a stream: the server sends a packet to a player, or receives one as if a player had
sent it. -/
structure StreamCall where
  stream : StreamId
  direction : Direction
  player : UInt64
  packet : Packet
  network : Option (List UInt8)
  /-- Whether no listener is to see the packet again. -/
  bypassFilters : Bool := false
  deriving DecidableEq, Repr

/-- An operation that waits for the answer of a stream. -/
inductive Frame where
  | send (parcel : Parcel)
  /-- A send of a queue: its time, the packet at the stream, those still to transmit, and the
  report so far. -/
  | drain (queue : QueueId) (now : UInt64) (parcel : Parcel) (rest : List Parcel) (report : Report)

structure Pipeline where
  markers : Markers := .none
  queues : QueueId → Queue := fun _ => {}
  /-- Open frames, innermost first. -/
  frames : List Frame := []

inductive Action where
  | register (marker : Marker)
  | revise (marker : MarkerId) (change : Marker.Change)
  /-- Hand an event to the stream of a marker, past every queue. -/
  | send (marker : MarkerId) (event : Event)
  | enqueue (queue : QueueId) (event : Event)
  | reposition (queue : QueueId) (ticket : Ticket)
  /-- Every listener has finished its synchronous part. Sends unless a deferral is outstanding. -/
  | complete (queue : QueueId) (ticket : Ticket) (now : UInt64)
  /-- A deferring listener is done. The call that releases the last deferral sends. -/
  | signal (queue : QueueId) (ticket : Ticket) (now : UInt64)
  | trySend (queue : QueueId) (now : UInt64)
  | evict (queue : QueueId) (now : UInt64)
  | remove (queue : QueueId) (ticket : Ticket)
  | count (queue : QueueId)
  | answer (outcome : Outcome)

inductive Reply where
  | registered (marker : MarkerId)
  | revised
  /-- A stream has to be called; the operation goes on with its answer. -/
  | calling (call : StreamCall)
  | sent (result : Except MarkerFailure Unit)
  | queued (result : Except MarkerFailure Ticket)
  | moved (result : Bool)
  | reported (report : Report)
  | evicted (events : List Event)
  | removed (event : Option Event)
  | counted (size : Nat)
  /-- There was no call to answer. -/
  | idle
  /-- The operation would wait for ever on the lock of a queue. -/
  | stuck

structure Step where
  reply : Reply
  state : Pipeline
  notices : List Notice := []

namespace Pipeline

def setQueue (p : Pipeline) (id : QueueId) (queue : Queue) : Pipeline :=
  { p with queues := fun other => if other = id then queue else p.queues other }

/-- Put back a queue that was locked for an operation, and the markers that went with it. -/
def putBack (p : Pipeline) (id : QueueId) (queue : Queue) (markers : Markers) : Pipeline :=
  { p.setQueue id queue.unlock with markers := markers }

@[simp] theorem queues_setQueue_self (p : Pipeline) (id : QueueId) (queue : Queue) :
    (p.setQueue id queue).queues id = queue := by
  simp [setQueue]

def revise (p : Pipeline) (marker : MarkerId) (change : Marker.Change) : Pipeline :=
  { p with markers := p.markers.revise marker change }

def push (p : Pipeline) (frame : Frame) : Pipeline := { p with frames := frame :: p.frames }

/-- The call that hands an event to the stream that its marker has now. -/
def call (p : Pipeline) (parcel : Parcel) : StreamCall where
  stream := (p.markers.get parcel.marker).stream
  direction := parcel.event.type.direction
  player := parcel.event.player
  packet := parcel.event.packet
  network := parcel.event.network

/-- Take the answer of a stream to a parcel. Only success is recorded in the marker. -/
def deliver (p : Pipeline) (parcel : Parcel) :
    Outcome → Except MarkerFailure Unit × Pipeline × List Notice
  | .ok () =>
    (.ok (), { p with markers := p.markers.setTransmitted parcel.marker },
      [.transmitted parcel.event.type (p.markers.get parcel.marker).newIndex parcel.event.player])
  | .error failure => (.error (.transmission failure), p, [])

/-- Release the heads of a queue under its lock and note in the report what was rejected or
dropped. -/
def release? (p : Pipeline) (queue : QueueId) (now : UInt64) (report : Report) :
    Option (Pipeline × List Parcel × Report × List Notice) :=
  (p.queues queue).lock?.map fun locked =>
    let (left, released) := locked.release p.markers now
    (p.putBack queue left released.markers,
      released.batch,
      { report with
        cancelled := report.cancelled + released.cancelled
        expired := report.expired ++ released.expired },
      released.notices)

def transmit (p : Pipeline) (queue : QueueId) (now : UInt64) (parcel : Parcel) (rest : List Parcel)
    (report : Report) (notices : List Notice) : Step where
  reply := .calling (p.call parcel)
  state := p.push (.drain queue now parcel rest report)
  notices := notices

/-- Look at a queue once: transmit what can be released, or go on quietly when nothing can. -/
def look (p : Pipeline) (queue : QueueId) (now : UInt64) (report : Report)
    (notices : List Notice) (quiet : Pipeline → Report → List Notice → Step) : Step :=
  match p.release? queue now report with
  | none => { reply := .stuck, state := p, notices := notices }
  | some (p, parcel :: rest, report, more) =>
    p.transmit queue now parcel rest report (notices ++ more)
  | some (p, [], report, more) => quiet p report (notices ++ more)

def finish (queue : QueueId) (p : Pipeline) (report : Report) (notices : List Notice) : Step where
  reply := .reported report
  state := p.setQueue queue { p.queues queue with draining := false }
  notices := notices

/-- Go on with a send that has nothing left to transmit. A mark left meanwhile asks for another
look. No mark can be left between two looks without a call, so there is no third. -/
def proceed (p : Pipeline) (queue : QueueId) (now : UInt64) (report : Report)
    (notices : List Notice) : Step :=
  p.look queue now report notices fun p report notices =>
    if (p.queues queue).rerun then
      (p.setQueue queue { p.queues queue with rerun := false }).look queue now report notices
        (finish queue)
    else
      finish queue p report notices

def trySend (p : Pipeline) (queue : QueueId) (now : UInt64) : Step :=
  let state := p.queues queue
  if state.draining then
    { reply := .reported {}, state := p.setQueue queue { state with rerun := true } }
  else
    (p.setQueue queue { state with draining := true, rerun := false }).proceed queue now {} []

/-- Go on with an operation whose stream call has returned. -/
def resume (p : Pipeline) (outcome : Outcome) : Frame → Step
  | .send parcel =>
    let (result, p, notices) := p.deliver parcel outcome
    { reply := .sent result, state := p, notices := notices }
  | .drain queue now parcel rest report =>
    let (result, p, notices) := p.deliver parcel outcome
    let report := report.record parcel.event result
    let notices := match result with
      | .ok () => notices
      | .error failure => notices ++ [.sendFailed parcel.event.id failure]
    match rest with
    | next :: rest => p.transmit queue now next rest report notices
    | [] => p.proceed queue now report notices

def locking (p : Pipeline) (queue : QueueId) (operate : Queue → Step) : Step :=
  match (p.queues queue).lock? with
  | none => { reply := .stuck, state := p }
  | some locked => operate locked

def step (p : Pipeline) : Action → Step
  | .register marker =>
    let (id, markers) := p.markers.add marker
    { reply := .registered id, state := { p with markers := markers } }
  | .revise marker change => { reply := .revised, state := p.revise marker change }
  | .send marker event =>
    let parcel : Parcel := ⟨marker, event⟩
    { reply := .calling (p.call parcel), state := p.push (.send parcel) }
  | .enqueue queue event =>
    match event.marker with
    | none => { reply := .queued (.error (.missingMarker event.id)), state := p }
    | some marker => p.locking queue fun locked =>
      let (left, markers, notices) := locked.enqueue p.markers event marker
      { reply := .queued (.ok ⟨event.id, marker⟩), state := p.putBack queue left markers,
        notices := notices }
  | .reposition queue ticket => p.locking queue fun locked =>
    let (moved, left, markers, notices) := locked.reposition p.markers ticket
    { reply := .moved moved, state := p.putBack queue left markers, notices := notices }
  | .complete queue ticket now =>
    let p := p.revise ticket.marker (.processed true)
    if (p.markers.get ticket.marker).deferrals.isHolding then
      { reply := .reported {}, state := p }
    else
      p.trySend queue now
  | .signal queue ticket now =>
    let p := p.revise ticket.marker .release
    let marker := p.markers.get ticket.marker
    if marker.deferrals.isHolding || !marker.processed then
      { reply := .reported {}, state := p }
    else
      p.trySend queue now
  | .trySend queue now => p.trySend queue now
  | .evict queue now => p.locking queue fun locked =>
    let (events, left, markers) := locked.evict p.markers now
    { reply := .evicted events, state := p.putBack queue left markers }
  | .remove queue ticket => p.locking queue fun locked =>
    let (event, left, markers) := locked.remove p.markers ticket
    { reply := .removed event, state := p.putBack queue left markers }
  | .count queue => p.locking queue fun locked =>
    { reply := .counted locked.backlog.size, state := p.putBack queue locked p.markers }
  | .answer outcome =>
    match p.frames with
    | [] => { reply := .idle, state := p }
    | frame :: frames => { p with frames := frames }.resume outcome frame

end Pipeline

end PacketFlow
