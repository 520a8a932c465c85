import PacketFlow.Admission
import PacketFlow.Scenario.Answer
import PacketFlow.Scenario.Table

/-! The objects of a scenario: a pipeline, the scripts of its streams, and tables of names. -/

set_option autoImplicit false

namespace PacketFlow.Scenario

/-- A scripted stream and how often it has been called. -/
structure StreamScript where
  name : Name
  outcomes : List Outcome
  callbacks : List (Nat × List Command)
  calls : Nat := 0

namespace StreamScript

def commandsAt (script : StreamScript) (call : Nat) : List Command :=
  (script.callbacks.filter fun callback => callback.1 == call).flatMap (·.2)

def outcomeAt (script : StreamScript) (call : Nat) : Outcome :=
  (script.outcomes[call]?.or script.outcomes.getLast?).getD (.ok ())

end StreamScript

structure World where
  /-- What the clock shows throughout. -/
  clock : UInt64
  pipeline : Pipeline := {}
  /-- Scripts by the number of the stream. -/
  scripts : Array StreamScript := #[]
  eventNames : Array Name := #[]
  queueCount : Nat := 0
  lockCount : Nat := 0
  /-- Markers whose time of admission was read from the clock. -/
  clocked : List MarkerId := []
  /-- Markers whose deadline has been set. -/
  retimed : List MarkerId := []
  streams : Table StreamId := {}
  factories : Table Admission := {}
  markers : Table MarkerId := {}
  locks : Table LockId := {}
  chains : Table Chain := {}
  cursors : Table Cursor := {}
  events : Table Event := {}
  containers : Table Packet := {}
  queues : Table QueueId := {}
  tickets : Table Ticket := {}
  resolvers : Table Resolver := {}
  counters : Table Deferrals := {}

namespace World

def record (world : World) (id : MarkerId) : Marker := world.pipeline.markers.get id

def marker? (world : World) (name : Name) : Option Marker :=
  (world.markers.find? name).map world.record

def view (world : World) (id : MarkerId) : MarkerView :=
  let marker := world.record id
  let clocked := world.clocked.contains id
  { marker := marker
    initialTime := if clocked then .now else .at marker.initialTime
    timeout :=
      if clocked && !world.retimed.contains id && marker.timeout != topWord then
        .afterNow (marker.timeout - marker.initialTime)
      else
        .at marker.timeout
    stream := (world.streams.namesOf marker.stream).head? }

def queueLength (world : World) (queue : QueueId) : Nat :=
  (world.pipeline.queues queue).backlog.size

def eventName (world : World) (id : EventId) : Name := world.eventNames.getD id ""

/-- Bind an event that comes back to its name. -/
def returnEvent (world : World) (event : Event) : World :=
  { world with events := world.events.bind (world.eventName event.id) event }

def returnEvents (world : World) (events : List Event) : World := events.foldl returnEvent world

end World

end PacketFlow.Scenario
