import PacketFlow.Capability.Resolver
import PacketFlow.Marker
import PacketFlow.Pipeline

/-! Commands of a scenario.

A scenario exercises a pipeline by commands on named objects. Its streams are scripted: each call
runs the commands that the script holds for it and then ends as the script says.
-/

set_option autoImplicit false

namespace PacketFlow.Scenario

abbrev Name := String

/-- A field of a marker and the value it gets. Streams and cursors are given by name. -/
inductive FieldValue where
  | timeout (value : UInt64)
  | newIndex (value : UInt64)
  | queuedIndex (value : Option UInt64)
  | processed (value : Bool)
  | asyncCancelled (value : Bool)
  | handler (value : Option UInt64)
  | worker (value : UInt64)
  | stream (value : Name)
  | traversal (value : Option Name)

/-- How a resolver comes to its capability. -/
inductive ResolverSource where
  | version (value : Version)
  | capability (value : Capability)

/-- What a probe tells, and its answers to the readings of the flag. The last answer repeats; a
probe without answers always says no. -/
structure ProbeScript where
  discovery : FlagLookup := .named
  flags : List (Except FlagFailure Bool) := []

def ProbeScript.probe (script : ProbeScript) : Probe where
  discovery := script.discovery
  flag reading _ := (script.flags[reading]?.or script.flags.getLast?).getD (.ok false)

inductive Command where
  /-- Create a scripted stream. Its calls are counted from zero; before a call ends, the commands
  under its number are run. The last outcome repeats; without outcomes every call succeeds. -/
  | stream (id : Name) (outcomes : List Outcome) (callbacks : List (Nat × List Command))
  | factory (id stream : Name) (timeout : Option Duration) (delta : Option UInt64)
  | create (factory id : Name)
  | createWith (factory id : Name) (delta : UInt64) (timeout : Duration)
  | createAt (factory id : Name) (delta : UInt64) (timeout : Duration) (time : UInt64)
  | marker (id stream : Name) (index time : UInt64) (timeout : Duration)
  | build (id : Name) (stream : Option Name) (index time : Option UInt64)
      (timeout : Option Duration)
  | restore (id stream : Name) (text : String)
  | get (marker : Name)
  | snapshot (marker : Name)
  | display (marker : Name)
  | displayLines (marker : Name)
  | set (marker : Name) (field : FieldValue)
  | defer (marker : Name)
  | release (marker : Name)
  | expiredAt (marker : Name) (now : UInt64)
  | expired (marker : Name)
  | nextListener (marker : Name)
  | send (marker event : Name)
  | newLock (id : Name)
  | setLock (marker lock : Name)
  | lock (marker : Name)
  | compare (a : Name) (b : Option Name)
  | order (markers : List Name)
  | chain (id : Name) (listeners : List Listener)
  | chainGet (chain : Name) (index : Nat)
  | cursor (id chain : Name) (position : Option Nat)
  | cursorOf (marker id : Name)
  | cursorGet (cursor : Name)
  | next (cursor : Name)
  | nth (cursor : Name) (count : Nat)
  | rest (cursor : Name)
  | event (id : Name) (packet : Packet) (player : UInt64) (network : Option (List UInt8))
      (marker : Option Name) (cancelled : Bool)
  | eventGet (event : Name)
  | cancel (event : Name) (value : Bool)
  | attach (event : Name) (marker : Option Name)
  | writeString (event : Name) (index : Nat) (text : String)
  | container (id : Name) (packet : Packet)
  | containerAdd (container : Name) (text : String)
  | containerPayload (container : Name) (bytes : List UInt8)
  | containerWrite (container : Name) (index : Nat) (text : String)
  | containerRead (container : Name) (index : Nat)
  | containerEq (a b : Name)
  | queue (id : Name)
  | length (queue : Name)
  | enqueue (queue event ticket : Name)
  | update (queue ticket : Name)
  | complete (queue ticket : Name)
  | signal (queue ticket : Name)
  | trySend (queue : Name)
  | trySendAt (queue : Name) (now : UInt64)
  | evict (queue : Name) (now : UInt64)
  | remove (queue ticket : Name)
  | resolver (id : Name) (probe : ProbeScript) (source : ResolverSource)
  | isAsync (resolver event : Name)
  | allowsAsync (resolver event : Name)
  | markerIsAsync (resolver event marker : Name)
  | counter (id : Name) (outstanding : Int32)
  | counterAdd (counter : Name)
  | counterRelease (counter : Name)
  | counterGet (counter : Name)
  | malformed

instance : Inhabited Command := ⟨.malformed⟩

mutual

/-- How many commands there are, those inside streams included. -/
def Command.size : Command → Nat
  | .stream _ _ callbacks => callbacksSize callbacks + 1
  | _ => 1

def callbacksSize : List (Nat × List Command) → Nat
  | [] => 0
  | (_, commands) :: callbacks => commandsSize commands + callbacksSize callbacks

def commandsSize : List Command → Nat
  | [] => 0
  | command :: commands => command.size + commandsSize commands

end

end PacketFlow.Scenario
