import PacketFlow.Event
import PacketFlow.Marker
import PacketFlow.Notice

/-! Answers whether a packet is asynchronous.

A resolver asks its probe once what the server tells and keeps the decision. Chat whose content
cannot be read shows that content is not reliable: from then on everything counts as synchronous.
-/

set_option autoImplicit false

namespace PacketFlow

/-- Inspection of a running server: what it tells, and the answer to each reading of the flag in
turn. -/
structure Probe where
  discovery : FlagLookup
  flag : Nat → Packet → Except FlagFailure Bool

structure Resolver where
  probe : Probe
  decided : Capability
  /-- Whether content has proved unreliable. -/
  forcedSync : Bool := false
  /-- How often the flag of a packet has been read. -/
  reads : Nat := 0
  /-- How often the probe has been asked what the server tells. -/
  discoveries : Nat := 0

namespace Resolver

/-- Ask the probe and keep what follows from its answer. -/
def resolve (probe : Probe) (version : Version) : Resolver × List Notice :=
  let decided := Capability.decide probe.discovery version
  let resolved := Notice.capabilityResolved decided version
  let resolver : Resolver := { probe := probe, decided := decided, discoveries := 1 }
  match probe.discovery with
  | .accessors count =>
    if Capability.isAssumed probe.discovery version then
      (resolver, [.asynchronyUnknown version count, resolved])
    else
      (resolver, [resolved])
  | .named => (resolver, [resolved])

def ofCapability (probe : Probe) (capability : Capability) : Resolver :=
  { probe := probe, decided := capability }

def capability (resolver : Resolver) : Capability :=
  if resolver.forcedSync then .alwaysSync else resolver.decided

/-- An answer, the resolver afterwards and what it notes. -/
structure Reading (α : Type) where
  answer : α
  resolver : Resolver
  notices : List Notice := []

/-- Plain chat is processed asynchronously, commands are not. Nothing else is. -/
def readContent (resolver : Resolver) (event : Event) : Reading Bool :=
  if event.type = .clientChat then
    match event.packet.readString 0 with
    | some content => { answer := content.toList.head? != some '/', resolver := resolver }
    | none =>
      { answer := false, resolver := { resolver with forcedSync := true },
        notices := [.chatUnreadable] }
  else
    { answer := false, resolver := resolver }

def isAsync (resolver : Resolver) (event : Event) : Reading (Except FlagFailure Bool) :=
  match resolver.capability with
  | .alwaysSync => { answer := .ok false, resolver := resolver }
  | .packetFlag =>
    { answer := resolver.probe.flag resolver.reads event.packet,
      resolver := { resolver with reads := resolver.reads + 1 } }
  | .contentBased =>
    let reading := resolver.readContent event
    { answer := .ok reading.answer, resolver := reading.resolver, notices := reading.notices }

/-- The same, where a packet that cannot be told counts as synchronous. -/
def allowsAsync (resolver : Resolver) (event : Event) : Reading Bool :=
  let reading := resolver.isAsync event
  match reading.answer with
  | .ok answer =>
    { answer := answer, resolver := reading.resolver, notices := reading.notices }
  | .error failure =>
    { answer := false, resolver := reading.resolver,
      notices := reading.notices ++ [.assumedSynchronous event.type failure] }

def display (resolver : Resolver) : String :=
  "CapabilityResolver \x7b capability: " ++ resolver.capability.name ++ ", .. \x7d"

end Resolver

/-- Whoever has a marker may ask through it; the resolver decides. -/
def Marker.isAsync (_marker : Marker) (resolver : Resolver) (event : Event) :
    Resolver.Reading (Except FlagFailure Bool) :=
  resolver.isAsync event

end PacketFlow
