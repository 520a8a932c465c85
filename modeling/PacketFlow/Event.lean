import PacketFlow.Packet

/-! Packets in flight.

An event is a packet together with what listeners observe and change while it is processed. Its
number is unique and breaks ties between equal send indices. Markers are shared records, so an
event holds the number of its marker and not the record itself.
-/

set_option autoImplicit false

namespace PacketFlow

abbrev EventId := Nat

abbrev MarkerId := Nat

structure Event where
  id : EventId
  player : UInt64
  packet : Packet
  /-- Whether a listener cancelled the packet. -/
  cancelled : Bool := false
  /-- Header captured on the network, passed on untouched. -/
  network : Option (List UInt8) := none
  marker : Option MarkerId := none
  deriving DecidableEq, Repr

namespace Event

def type (event : Event) : PacketType := event.packet.type

/-- Whether the server sends this packet to the player. -/
def isServerSent (event : Event) : Bool := event.type.direction == .server

end Event

end PacketFlow
