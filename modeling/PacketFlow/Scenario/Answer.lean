import PacketFlow.Json.Record
import PacketFlow.Marker.Order
import PacketFlow.Scenario.Command
import PacketFlow.Snapshot

/-! What the commands of a scenario answer. -/

set_option autoImplicit false

namespace PacketFlow.Scenario

/-- A time in an answer. Times taken from the clock are shown relative to it. -/
inductive Moment where
  | at (time : UInt64)
  /-- So many milliseconds after the reading of the clock, which itself is shown as such. -/
  | afterNow (millis : UInt64)
  | now

structure MarkerView where
  marker : Marker
  initialTime : Moment
  timeout : Moment
  /-- The name of its stream, unless the name now means another one. -/
  stream : Option Name

structure Comparison where
  order : Ordering
  equal : Bool
  less : Bool
  lessEqual : Bool
  sameHash : Bool

def Comparison.of (a b : Marker) : Comparison where
  order := compare a b
  equal := a == b
  less := a.lt b
  lessEqual := a.le b
  sameHash := hash a == hash b

structure OrderView where
  sorted : List Name
  distinct : List UInt64
  hashed : Nat
  /-- Indices of admission of the least and the greatest marker. -/
  least : Option UInt64
  greatest : Option UInt64

def OrderView.of (named : List (Name × Marker)) : OrderView :=
  let markers := named.map (·.2)
  { sorted := (named.mergeSort fun a b => a.2.le b.2).map (·.1)
    distinct := (Marker.orderedSet markers).toList.map (·.newIndex)
    hashed := (Marker.hashedSet markers).size
    least := (Marker.least? markers).map (·.admittedIndex)
    greatest := (Marker.greatest? markers).map (·.admittedIndex) }

inductive Visited where
  | one (listener : Option Listener)
  | all (listeners : List Listener)

inductive PacketResult where
  | nothing
  | written (done : Bool)
  | read (text : Option String)

structure ReportView where
  report : Report
  expired : List Name
  failed : List (Name × MarkerFailure)
  /-- The length of the queue afterwards. -/
  length : Nat
  /-- Deferrals left, where the command released one. -/
  delay : Option Int32 := none

inductive Answer where
  /-- The command names something undefined or is malformed. Nothing has changed. -/
  | badStep
  | nothing
  | flag (value : Bool)
  | delay (value : Int32)
  | text (value : String)
  | listener (value : Option Listener)
  | marker (view : MarkerView)
  | failure (cause : MarkerFailure)
  | invalid (cause : Json.DecodeError)
  | factory (timeout delta current : UInt64)
  | admitted (view : MarkerView) (current : UInt64)
  | snapshot (value : Snapshot) (text : String)
  | sent (result : Except MarkerFailure Unit) (transmitted : Bool)
  /-- The names of a marker's lock, whether asking twice gives the same one, and whether it is
  free. -/
  | lock (names : List Name) (same free : Bool)
  | comparison (withPartner : Ordering) (full : Option Comparison)
  | order (view : OrderView)
  | chain (chain : Chain)
  | cursor (value : Option Cursor)
  | visited (got : Visited) (cursor : Cursor)
  | event (id : EventId)
  | eventView (event : Event) (marker : Option UInt64)
  | written (done : Bool) (packet : Packet)
  | packet (packet : Packet)
  | container (got : PacketResult) (packet : Packet)
  | length (value : Nat)
  | enqueued (event : EventId) (index : UInt64) (length : Nat)
  | moved (done : Bool) (index : Option UInt64) (length : Nat)
  | report (view : ReportView)
  | evicted (events : List Name) (length : Nat)
  | removed (event : Option Name) (index : Option UInt64) (length : Nat)
  | resolver (capability : Capability) (display : String) (discoveries : Nat)
  | reading (got : Except FlagFailure Bool) (capability : Capability) (reads discoveries : Nat)
  /-- The command would never end. -/
  | stuck

structure CallView where
  stream : Name
  call : StreamCall
  outcome : Outcome

/-- The answer of a command, the calls that it made with the responses of the commands inside each
call, and its notices. -/
inductive Response where
  | mk (answer : Answer) (calls : List (CallView × List Response)) (notices : List Notice)

end PacketFlow.Scenario
