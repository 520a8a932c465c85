/-! Persistable view of a marker.

A snapshot holds the timing, the order and the completion state. What belongs to the running
process, such as the stream and the listener position, is supplied again when a marker is restored.
-/

set_option autoImplicit false

namespace PacketFlow

structure Snapshot where
  version : UInt32
  initialTime : UInt64
  timeout : UInt64
  admittedIndex : UInt64
  newIndex : UInt64
  queuedIndex : Option UInt64
  processed : Bool
  transmitted : Bool
  asyncCancelled : Bool
  delay : Int32
  deriving DecidableEq, Repr

/-- The layout of snapshots taken now. It changes whenever a field changes its meaning, so that
stale snapshots are refused. -/
def Snapshot.currentVersion : UInt32 := 1

end PacketFlow
