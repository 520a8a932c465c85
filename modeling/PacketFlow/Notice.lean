import PacketFlow.Capability
import PacketFlow.Failure
import PacketFlow.Packet

/-! Notices for the log: what happened, how much it matters and how it is worded. -/

set_option autoImplicit false

namespace PacketFlow

inductive Level where
  | trace
  | debug
  | info
  | warn
  deriving DecidableEq, Repr

def Level.label : Level → String
  | .trace => "TRACE"
  | .debug => "DEBUG"
  | .info => "INFO"
  | .warn => "WARN"

inductive Notice where
  | queued (event : Nat) (index : UInt64)
  | moved (event : Nat) (old new : UInt64)
  | rejecting (type : PacketType) (player timeout : UInt64)
  | droppingCancelled (event : Nat)
  | transmitted (type : PacketType) (index player : UInt64)
  | sendFailed (event : Nat) (failure : MarkerFailure)
  | indicesExhausted (delta : UInt64)
  | restored (index : UInt64) (delay : Int32)
  | asynchronyUnknown (version : Version) (accessors : Nat)
  | capabilityResolved (capability : Capability) (version : Version)
  | chatUnreadable
  | assumedSynchronous (type : PacketType) (failure : FlagFailure)
  deriving DecidableEq, Repr

namespace Notice

def level : Notice → Level
  | .queued .. | .transmitted .. | .restored .. => .trace
  | .moved .. | .droppingCancelled .. | .capabilityResolved .. | .assumedSynchronous .. => .debug
  | .asynchronyUnknown .. => .info
  | .rejecting .. | .sendFailed .. | .indicesExhausted .. | .chatUnreadable => .warn

def message : Notice → String
  | .queued event index =>
    "queued event " ++ event.repr ++ " at send index " ++ index.toNat.repr
  | .moved event old new =>
    "moved event " ++ event.repr ++ " from send index " ++ old.toNat.repr ++ " to " ++
      new.toNat.repr
  | .rejecting type player timeout =>
    "rejecting " ++ type.display ++ " for player " ++ player.toNat.repr ++ ": timed out at " ++
      timeout.toNat.repr
  | .droppingCancelled event => "dropping cancelled event " ++ event.repr
  | .transmitted type index player =>
    "transmitted " ++ type.display ++ " (send index " ++ index.toNat.repr ++ ") for player " ++
      player.toNat.repr
  | .sendFailed event failure =>
    "failed to send event " ++ event.repr ++ ": " ++ failure.message
  | .indicesExhausted delta =>
    "send index space exhausted (sending delta " ++ delta.toNat.repr ++ "), indices now repeat"
  | .restored index delay =>
    "restored marker at send index " ++ index.toNat.repr ++ " (delay " ++
      toString delay.toInt ++ ")"
  | .asynchronyUnknown version accessors =>
    "could not determine asynchronous state of packets on " ++ version.display ++ " (" ++
      accessors.repr ++ " boolean accessors), treating all packets as synchronous"
  | .capabilityResolved capability version =>
    "resolved packet async capability " ++ capability.name ++ " for " ++ version.display
  | .chatUnreadable => "failed to determine contents of incoming chat packet"
  | .assumedSynchronous type failure =>
    "assuming " ++ type.display ++ " is synchronous: " ++ failure.message

end Notice

end PacketFlow
