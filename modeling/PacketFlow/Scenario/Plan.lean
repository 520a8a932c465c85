import PacketFlow.Marker.Display
import PacketFlow.Marker.Restore
import PacketFlow.Scenario.World
import PacketFlow.Snapshot.Json

/-! The meaning of each command.

A command either answers at once or performs one action of the pipeline and answers with its reply.
-/

set_option autoImplicit false

namespace PacketFlow.Scenario

/-- What a command comes to: an answer, or an action and what its reply means. -/
inductive Plan where
  | done (answer : Answer) (world : World) (notices : List Notice)
  | act (world : World) (notices : List Notice) (action : Action)
      (finish : Reply → World → Answer × World)

namespace Plan

def say (world : World) (answer : Answer) : Plan := .done answer world []

def register (world : World) (name : Name) (marker : Marker) (clocked : Bool)
    (notices : List Notice) (answer : MarkerView → Answer) : Plan :=
  .act world notices (.register marker) fun reply world =>
    match reply with
    | .registered id =>
      let world := { world with
        markers := world.markers.bind name id
        clocked := if clocked then id :: world.clocked else world.clocked }
      (answer (world.view id), world)
    | _ => (.stuck, world)

def revise (world : World) (id : MarkerId) (change : Marker.Change)
    (answer : World → Answer) : Plan :=
  .act world [] (.revise id change) fun _ world => (answer world, world)

def send (world : World) (queue : QueueId) (action : Action)
    (delay : World → Option Int32 := fun _ => none) : Plan :=
  .act world [] action fun reply world =>
    match reply with
    | .reported report =>
      let view : ReportView := {
        report := report
        expired := report.expired.map fun event => world.eventName event.id
        failed := report.failed.map fun failed => (world.eventName failed.1.id, failed.2)
        length := world.queueLength queue
        delay := delay world }
      (.report view, world.returnEvents (report.expired ++ report.failed.map (·.1)))
    | _ => (.stuck, world)

def ask {α : Type} (world : World) (name : Name) (reading : Resolver.Reading α)
    (got : α → Except FlagFailure Bool) : Plan :=
  .done
    (.reading (got reading.answer) reading.resolver.capability reading.resolver.reads
      reading.resolver.discoveries)
    { world with resolvers := world.resolvers.bind name reading.resolver } reading.notices

/-- Move a cursor and tell what it yielded. -/
def visit (world : World) (name : Name) (got : Visited) (cursor : Cursor) : Plan :=
  say { world with cursors := world.cursors.bind name cursor } (.visited got cursor)

/-- Change a container and tell what came of it. -/
def store (world : World) (name : Name) (got : PacketResult) (packet : Packet) : Plan :=
  say { world with containers := world.containers.bind name packet } (.container got packet)

end Plan

namespace World

/-- The change of a marker that setting a field means. -/
def change? (world : World) : FieldValue → Option Marker.Change
  | .timeout value => some (.timeout value)
  | .newIndex value => some (.newIndex value)
  | .queuedIndex value => some (.queuedIndex value)
  | .processed value => some (.processed value)
  | .asyncCancelled value => some (.asyncCancelled value)
  | .handler value => some (.handler value)
  | .worker value => some (.worker value)
  | .stream name => (world.streams.find? name).map .stream
  | .traversal none => some (.traversal none)
  | .traversal (some name) => (world.cursors.find? name).map fun cursor => .traversal (some cursor)

/-- Admit a marker through a factory. -/
def admission (world : World) (factory id : Name) (clocked : Bool)
    (result : Marker × Admission × List Notice) : Plan :=
  let (marker, admission, notices) := result
  Plan.register { world with factories := world.factories.bind factory admission } id marker clocked
    notices fun view => .admitted view admission.current

/-- What a command means in a world, unless it names something undefined. -/
def plan? (world : World) : Command → Option Plan
  | .stream id outcomes callbacks =>
    some <| .say { world with
      scripts := world.scripts.push { name := id, outcomes := outcomes, callbacks := callbacks }
      streams := world.streams.bind id world.scripts.size } .nothing
  | .factory id stream timeout delta => do
    let defaults : Defaults := {
      timeoutDelta := timeout.getD Defaults.standard.timeoutDelta
      sendingDelta := delta.getD Defaults.standard.sendingDelta }
    let factory : Admission := { stream := ← world.streams.find? stream, defaults := defaults }
    return .say { world with factories := world.factories.bind id factory }
      (.factory defaults.timeoutDelta.millis defaults.sendingDelta factory.current)
  | .create factory id => do
    let admission ← world.factories.find? factory
    return world.admission factory id true (admission.issue world.clock)
  | .createWith factory id delta timeout => do
    let admission ← world.factories.find? factory
    return world.admission factory id true (admission.issueAt delta timeout world.clock)
  | .createAt factory id delta timeout time => do
    let admission ← world.factories.find? factory
    return world.admission factory id false (admission.issueAt delta timeout time)
  | .marker id stream index time timeout => do
    let stream ← world.streams.find? stream
    return .register world id (Marker.fresh stream index time timeout) false [] .marker
  | .build id stream index time timeout =>
    let draft : Marker.Draft := {
      stream := stream.bind world.streams.find?
      index := index.getD 0
      time := time
      timeoutDelta := timeout }
    match draft.build world.clock with
    | .ok marker => some (.register world id marker time.isNone [] .marker)
    | .error failure => some (.say world (.failure failure))
  | .restore id stream text => do
    let stream ← world.streams.find? stream
    match Snapshot.ofText text with
    | .error cause => return .say world (.invalid cause)
    | .ok state =>
      match Marker.restore stream state with
      | .error failure => return .say world (.failure failure)
      | .ok marker => return .register world id marker false [Marker.restoreNotice state] .marker
  | .get marker => do
    return .say world (.marker (world.view (← world.markers.find? marker)))
  | .snapshot marker => do
    let state := (← world.marker? marker).snapshot
    return .say world (.snapshot state state.toText)
  | .display marker => do return .say world (.text (← world.marker? marker).display)
  | .displayLines marker => do return .say world (.text (← world.marker? marker).displayLines)
  | .set marker field => do
    let id ← world.markers.find? marker
    let change ← world.change? field
    let world := match field with
      | .timeout _ => { world with retimed := id :: world.retimed }
      | _ => world
    return .revise world id change fun world => .marker (world.view id)
  | .defer marker => do
    let id ← world.markers.find? marker
    return .revise world id .defer fun world => .delay (world.record id).deferrals.outstanding
  | .release marker => do
    let id ← world.markers.find? marker
    return .revise world id .release fun world => .delay (world.record id).deferrals.outstanding
  | .expiredAt marker now => do
    return .say world (.flag ((← world.marker? marker).isExpiredAt now))
  | .expired marker => do
    return .say world (.flag ((← world.marker? marker).isExpiredAt world.clock))
  | .nextListener marker => do
    let id ← world.markers.find? marker
    let listener := (world.record id).nextListener
    return .revise world id .advance fun _ => .listener listener
  | .send marker event => do
    let id ← world.markers.find? marker
    let sent ← world.events.find? event
    return .act { world with events := world.events.drop event } [] (.send id sent)
      fun reply world =>
        match reply with
        | .sent result => (.sent result (world.record id).transmitted, world.returnEvent sent)
        | _ => (.stuck, world)
  | .newLock id =>
    some <| .say { world with
      locks := world.locks.bind id world.lockCount
      lockCount := world.lockCount + 1 } .nothing
  | .setLock marker lock => do
    let id ← world.markers.find? marker
    return .revise world id (.lock (← world.locks.find? lock)) fun _ => .nothing
  | .lock marker => do
    let handedOut := (← world.marker? marker).lock
    let again := (← world.marker? marker).lock
    let names := match handedOut with
      | some lock => (world.locks.namesOf lock).mergeSort (fun a b => a ≤ b)
      | none => []
    return .say world (.lock names (handedOut == again) true)
  | .compare a b => do
    let first ← world.marker? a
    match b with
    | none => return .say world (.comparison (first.compareTo none) none)
    | some b =>
      let second ← world.marker? b
      return .say world (.comparison (first.compareTo (some second)) (some (.of first second)))
  | .order markers => do
    let named ← markers.mapM fun name => (world.marker? name).map fun marker => (name, marker)
    return .say world (.order (.of named))
  | .chain id listeners =>
    let chain := Chain.ofList listeners
    some (.say { world with chains := world.chains.bind id chain } (.chain chain))
  | .chainGet chain index => do
    return .say world (.listener ((← world.chains.find? chain).get? index))
  | .cursor id chain position => do
    let chain ← world.chains.find? chain
    let cursor := match position with
      | some position => Cursor.resume chain position
      | none => Cursor.start chain
    return .say { world with cursors := world.cursors.bind id cursor } (.cursor (some cursor))
  | .cursorOf marker id => do
    match (← world.marker? marker).traversal with
    | some cursor =>
      return .say { world with cursors := world.cursors.bind id cursor } (.cursor (some cursor))
    | none => return .say world (.cursor none)
  | .cursorGet cursor => do return .say world (.visited (.one none) (← world.cursors.find? cursor))
  | .next cursor => do
    let (got, moved) := (← world.cursors.find? cursor).next
    return .visit world cursor (.one got) moved
  | .nth cursor count => do
    let (got, moved) := (← world.cursors.find? cursor).nth count
    return .visit world cursor (.one got) moved
  | .rest cursor => do
    let (got, moved) := (← world.cursors.find? cursor).rest
    return .visit world cursor (.all got) moved
  | .event id packet player network marker cancelled => do
    let marker ← match marker with
      | some name => (world.markers.find? name).map some
      | none => some none
    let event : Event := {
      id := world.eventNames.size
      player := player
      packet := packet
      cancelled := cancelled
      network := network
      marker := marker }
    return .say { world with
      eventNames := world.eventNames.push id
      events := world.events.bind id event } (.event event.id)
  | .eventGet event => do
    let event ← world.events.find? event
    return .say world (.eventView event (event.marker.map fun id => (world.record id).newIndex))
  | .cancel name value => do
    let event := { (← world.events.find? name) with cancelled := value }
    return .say { world with events := world.events.bind name event } (.flag event.cancelled)
  | .attach name marker => do
    let event ← world.events.find? name
    let marker ← match marker with
      | some marker => (world.markers.find? marker).map some
      | none => some none
    return .say { world with
      events := world.events.bind name { event with marker := marker } } .nothing
  | .writeString name index text => do
    let event ← world.events.find? name
    match event.packet.writeString? index text with
    | some packet =>
      return .say { world with events := world.events.bind name { event with packet := packet } }
        (.written true packet)
    | none => return .say world (.written false event.packet)
  | .container id packet =>
    some (.say { world with containers := world.containers.bind id packet } (.packet packet))
  | .containerAdd name text => do
    return .store world name .nothing ((← world.containers.find? name).addString text)
  | .containerPayload name bytes => do
    return .store world name .nothing ((← world.containers.find? name).withPayload bytes)
  | .containerWrite name index text => do
    let packet ← world.containers.find? name
    match packet.writeString? index text with
    | some changed => return .store world name (.written true) changed
    | none => return .store world name (.written false) packet
  | .containerRead name index => do
    let packet ← world.containers.find? name
    return .say world (.container (.read (packet.readString index)) packet)
  | .containerEq a b => do
    return .say world
      (.flag (decide ((← world.containers.find? a) = (← world.containers.find? b))))
  | .queue id =>
    let queue := world.queueCount
    let world := { world with
      queues := world.queues.bind id queue
      queueCount := queue + 1 }
    some (.say world (.length (world.queueLength queue)))
  | .length queue => do
    return .act world [] (.count (← world.queues.find? queue)) fun reply world =>
      match reply with
      | .counted size => (.length size, world)
      | _ => (.stuck, world)
  | .enqueue queue event ticket => do
    let queue ← world.queues.find? queue
    let queued ← world.events.find? event
    return .act { world with events := world.events.drop event } [] (.enqueue queue queued)
      fun reply world =>
        match reply with
        | .queued (.ok issued) =>
          (.enqueued issued.event (world.record issued.marker).queuedOrZero
            (world.queueLength queue),
            { world with tickets := world.tickets.bind ticket issued })
        | .queued (.error failure) => (.failure failure, world)
        | _ => (.stuck, world)
  | .update queue ticket => do
    let queue ← world.queues.find? queue
    let ticket ← world.tickets.find? ticket
    return .act world [] (.reposition queue ticket) fun reply world =>
      match reply with
      | .moved done =>
        (.moved done (world.record ticket.marker).queuedIndex (world.queueLength queue), world)
      | _ => (.stuck, world)
  | .complete queue ticket => do
    let queue ← world.queues.find? queue
    let ticket ← world.tickets.find? ticket
    return .send world queue (.complete queue ticket world.clock)
  | .signal queue ticket => do
    let queue ← world.queues.find? queue
    let ticket ← world.tickets.find? ticket
    return .send world queue (.signal queue ticket world.clock) fun world =>
      some (world.record ticket.marker).deferrals.outstanding
  | .trySend queue => do
    let queue ← world.queues.find? queue
    return .send world queue (.trySend queue world.clock)
  | .trySendAt queue now => do
    let queue ← world.queues.find? queue
    return .send world queue (.trySend queue now)
  | .evict queue now => do
    let queue ← world.queues.find? queue
    return .act world [] (.evict queue now) fun reply world =>
      match reply with
      | .evicted events =>
        (.evicted (events.map fun event => world.eventName event.id) (world.queueLength queue),
          world.returnEvents events)
      | _ => (.stuck, world)
  | .remove queue ticket => do
    let queue ← world.queues.find? queue
    let ticket ← world.tickets.find? ticket
    return .act world [] (.remove queue ticket) fun reply world =>
      match reply with
      | .removed event =>
        (.removed (event.map fun event => world.eventName event.id)
          (world.record ticket.marker).queuedIndex (world.queueLength queue),
          world.returnEvents event.toList)
      | _ => (.stuck, world)
  | .resolver id script source =>
    let (resolver, notices) := match source with
      | .version version => Resolver.resolve script.probe version
      | .capability capability => (Resolver.ofCapability script.probe capability, [])
    some <| .done (.resolver resolver.capability resolver.display resolver.discoveries)
      { world with resolvers := world.resolvers.bind id resolver } notices
  | .isAsync name event => do
    let resolver ← world.resolvers.find? name
    return .ask world name (resolver.isAsync (← world.events.find? event)) id
  | .allowsAsync name event => do
    let resolver ← world.resolvers.find? name
    return .ask world name (resolver.allowsAsync (← world.events.find? event)) .ok
  | .markerIsAsync name event marker => do
    let resolver ← world.resolvers.find? name
    let marker ← world.marker? marker
    return .ask world name (marker.isAsync resolver (← world.events.find? event)) id
  | .counter id outstanding =>
    some (.say { world with counters := world.counters.bind id ⟨outstanding⟩ } (.delay outstanding))
  | .counterAdd name => do
    let counter := (← world.counters.find? name).add
    return .say { world with counters := world.counters.bind name counter }
      (.delay counter.outstanding)
  | .counterRelease name => do
    let counter := (← world.counters.find? name).release
    return .say { world with counters := world.counters.bind name counter }
      (.delay counter.outstanding)
  | .counterGet name => do return .say world (.delay (← world.counters.find? name).outstanding)
  | .malformed => none

def plan (world : World) (command : Command) : Plan :=
  (world.plan? command).getD (.say world .badStep)

end World

end PacketFlow.Scenario
