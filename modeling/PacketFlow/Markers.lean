import PacketFlow.Event
import PacketFlow.Marker

/-! All markers of a process.

Events, tickets and workers share markers by number. Numbers are given out in turn and never
reused, so the record of every marker that has been registered can be looked up.
-/

set_option autoImplicit false

namespace PacketFlow

structure Markers where
  /-- How many markers have been registered; the next number. -/
  count : Nat
  get : MarkerId → Marker

namespace Markers

theorem eq_of_get {first second : Markers} (count : first.count = second.count)
    (get : ∀ id, first.get id = second.get id) : first = second := by
  cases first
  cases second
  obtain rfl := count
  obtain rfl := funext get
  rfl

/-- No marker has been registered. The record of a number not given out yet does not matter. -/
def none : Markers := ⟨0, fun _ => .fresh 0 0 0 .zero⟩

def set (markers : Markers) (id : MarkerId) (marker : Marker) : Markers :=
  { markers with get := fun other => if other = id then marker else markers.get other }

@[simp] theorem get_set_self (markers : Markers) (id : MarkerId) (marker : Marker) :
    (markers.set id marker).get id = marker := by
  simp [set]

theorem get_set_of_ne (markers : Markers) {id other : MarkerId} (marker : Marker)
    (different : other ≠ id) : (markers.set id marker).get other = markers.get other := by
  simp [set, different]

/-- What a change of a record leaves alone can be read as before from every record. -/
theorem read_set {α : Type} (read : Marker → α) {markers : Markers} {id : MarkerId}
    {marker : Marker} (same : read marker = read (markers.get id)) (other : MarkerId) :
    read ((markers.set id marker).get other) = read (markers.get other) := by
  simp only [set]
  split
  next here => rw [here, same]
  next => rfl

@[simp] theorem count_set (markers : Markers) (id : MarkerId) (marker : Marker) :
    (markers.set id marker).count = markers.count := rfl

def add (markers : Markers) (marker : Marker) : MarkerId × Markers :=
  (markers.count, { (markers.set markers.count marker) with count := markers.count + 1 })

theorem get_add (markers : Markers) (marker : Marker) (id : MarkerId) :
    (markers.add marker).2.get id = if id = markers.count then marker else markers.get id := rfl

def revise (markers : Markers) (id : MarkerId) (change : Marker.Change) : Markers :=
  markers.set id ((markers.get id).apply change)

/-- Record under which index a queue holds the packet, or that no queue holds it. -/
def setQueued (markers : Markers) (id : MarkerId) (index : Option UInt64) : Markers :=
  markers.revise id (.queuedIndex index)

def setTransmitted (markers : Markers) (id : MarkerId) : Markers :=
  markers.set id { markers.get id with transmitted := true }

/-- Whether the deadline of an event lies before a time. An event without a marker has no deadline
to wait for. -/
def isOverdue (markers : Markers) (now : UInt64) (event : Event) : Bool :=
  match event.marker with
  | .none => true
  | some id => (markers.get id).isExpiredAt now

/-- Record that no queue holds the packet of an event. -/
def clearQueued (markers : Markers) (event : Event) : Markers :=
  match event.marker with
  | .none => markers
  | some id => markers.setQueued id .none

end Markers

end PacketFlow
