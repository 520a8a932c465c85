import PacketFlow.Deferrals
import PacketFlow.Duration
import PacketFlow.Failure
import PacketFlow.Listener.Cursor

/-! The record that accompanies a packet while asynchronous listeners process it.

A marker keeps three concerns apart: the deadline after which the packet is rejected, the order in
which it is transmitted, and how many listeners still defer its transmission. It is created when
the packet is admitted, built from a draft, or restored from a snapshot, and then revised by the
changes listed here.
-/

set_option autoImplicit false

namespace PacketFlow

abbrev StreamId := Nat

abbrev LockId := Nat

structure Marker where
  /-- Where the packet is handed to in the end. -/
  stream : StreamId
  /-- Position among the listeners, so that another worker can resume. -/
  traversal : Option Cursor := none
  /-- Time of admission, in milliseconds since the epoch. -/
  initialTime : UInt64
  /-- Deadline, in milliseconds since the epoch. -/
  timeout : UInt64
  /-- Place in the order of admission. -/
  admittedIndex : UInt64
  /-- Desired place in the order of transmission; listeners may move it. -/
  newIndex : UInt64
  /-- The index under which a queue holds the packet. -/
  queuedIndex : Option UInt64 := none
  /-- Every listener has finished its synchronous part. -/
  processed : Bool := false
  transmitted : Bool := false
  /-- Asynchronous processing should stop, without dropping the packet. -/
  asyncCancelled : Bool := false
  deferrals : Deferrals := {}
  /-- Lock for work on the event outside listeners; a marker without one has its own. The marker
  itself never takes it. -/
  lock : Option LockId := none
  /-- The handler at work, absent outside asynchronous processing. -/
  handler : Option UInt64 := none
  worker : UInt64 := 0

namespace Marker

def fresh (stream : StreamId) (index time : UInt64) (timeoutDelta : Duration) : Marker where
  stream := stream
  initialTime := time
  timeout := satAdd time timeoutDelta.millis
  admittedIndex := index
  newIndex := index

def isExpiredAt (marker : Marker) (now : UInt64) : Bool := marker.timeout < now

def isQueued (marker : Marker) : Bool := marker.queuedIndex.isSome

/-- The index the packet is queued under, or zero when it is not queued. -/
def queuedOrZero (marker : Marker) : UInt64 := marker.queuedIndex.getD 0

/-- Whether listeners have finished, or will not be waited for. -/
def isFinished (marker : Marker) : Bool := marker.processed || marker.asyncCancelled

/-- Whether the packet may be transmitted when it comes first. -/
def isReady (marker : Marker) : Bool := marker.isFinished && !marker.deferrals.isHolding

def nextListener (marker : Marker) : Option Listener := marker.traversal.bind fun c => c.next.1

/-- A revision by listeners, workers and other collaborators. The time and the index of admission
stay as they are, and only a stream that accepts the packet makes it transmitted. -/
inductive Change where
  | stream (value : StreamId)
  | traversal (value : Option Cursor)
  | timeout (value : UInt64)
  | newIndex (value : UInt64)
  | queuedIndex (value : Option UInt64)
  | processed (value : Bool)
  | asyncCancelled (value : Bool)
  | defer
  | release
  | lock (value : LockId)
  | handler (value : Option UInt64)
  | worker (value : UInt64)
  /-- Step past the listener whose turn it is. -/
  | advance

def apply (marker : Marker) : Change → Marker
  | .stream value => { marker with stream := value }
  | .traversal value => { marker with traversal := value }
  | .timeout value => { marker with timeout := value }
  | .newIndex value => { marker with newIndex := value }
  | .queuedIndex value => { marker with queuedIndex := value }
  | .processed value => { marker with processed := value }
  | .asyncCancelled value => { marker with asyncCancelled := value }
  | .defer => { marker with deferrals := marker.deferrals.add }
  | .release => { marker with deferrals := marker.deferrals.release }
  | .lock value => { marker with lock := some value }
  | .handler value => { marker with handler := value }
  | .worker value => { marker with worker := value }
  | .advance => { marker with traversal := marker.traversal.map fun c => c.next.2 }

/-- What is known of a marker before it is built. -/
structure Draft where
  stream : Option StreamId := none
  index : UInt64 := 0
  /-- Time of admission; the time of building when absent. -/
  time : Option UInt64 := none
  /-- Thirty minutes when absent. -/
  timeoutDelta : Option Duration := none

def Draft.build (draft : Draft) (now : UInt64) : Except MarkerFailure Marker :=
  match draft.stream with
  | none => .error .missingStream
  | some stream =>
    .ok (fresh stream draft.index (draft.time.getD now)
      (draft.timeoutDelta.getD (.ofMillis 1800000)))

end Marker

end PacketFlow
