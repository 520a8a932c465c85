import PacketFlow.Version

/-! How the asynchrony of packets is decided on a game server.

Servers differ in what they tell: some have a flag on every packet, later ones are known to process
plain chat asynchronously and nothing else, and some tell nothing.
-/

set_option autoImplicit false

namespace PacketFlow

/-- What was found when looking for the flag on packets. -/
inductive FlagLookup where
  /-- Its accessor was found by name. -/
  | named
  /-- There is no such name; so many accessors without arguments give a truth value. -/
  | accessors (count : Nat)
  deriving DecidableEq, Repr

inductive Capability where
  /-- Every packet has its own flag. -/
  | packetFlag
  /-- Decided from kind and content. -/
  | contentBased
  /-- Nothing is asynchronous, or it cannot be told. -/
  | alwaysSync
  deriving DecidableEq, Repr

namespace Capability

def name : Capability → String
  | .packetFlag => "PacketFlag"
  | .contentBased => "ContentBased"
  | .alwaysSync => "AlwaysSync"

def all : List Capability := [.packetFlag, .contentBased, .alwaysSync]

def ofName? (text : String) : Option Capability := all.find? fun c => c.name == text

/-- Two accessors are enough to know the flag; a single one exists only where nothing is
asynchronous. -/
def decide (discovery : FlagLookup) (version : Version) : Capability :=
  match discovery with
  | .named => .packetFlag
  | .accessors 2 => .packetFlag
  | .accessors 1 => .alwaysSync
  | .accessors _ => if version.isAtLeast .bountifulUpdate then .contentBased else .alwaysSync

/-- Whether the answer could not be determined and was assumed. -/
def isAssumed (discovery : FlagLookup) (version : Version) : Bool :=
  match discovery with
  | .named => false
  | .accessors count => count ≠ 1 && count ≠ 2 && !version.isAtLeast .bountifulUpdate

end Capability

end PacketFlow
