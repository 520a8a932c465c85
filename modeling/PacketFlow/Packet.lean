/-! Packets: their kind and their decoded content. -/

set_option autoImplicit false

namespace PacketFlow

inductive Direction where
  | server
  | client
  deriving DecidableEq, Repr

def Direction.label : Direction → String
  | .server => "server"
  | .client => "client"

/-- Two kinds are the same when direction, number and name all agree. -/
structure PacketType where
  direction : Direction
  id : UInt8
  name : String
  deriving DecidableEq, Repr

namespace PacketType

def clientChat : PacketType := ⟨.client, 0x03, "Chat"⟩

def clientPosition : PacketType := ⟨.client, 0x04, "Position"⟩

def serverChat : PacketType := ⟨.server, 0x02, "Chat"⟩

def serverKeepAlive : PacketType := ⟨.server, 0x00, "KeepAlive"⟩

/-- Two lower-case hexadecimal digits. -/
def hexByte (byte : UInt8) : String :=
  String.ofList [Nat.digitChar (byte.toNat / 16), Nat.digitChar (byte.toNat % 16)]

def display (kind : PacketType) : String :=
  s!"{kind.direction.label}/{kind.name}[0x{hexByte kind.id}]"

end PacketType

/-- String fields and the raw remainder of a packet. -/
structure Packet where
  type : PacketType
  strings : List String := []
  payload : List UInt8 := []
  deriving DecidableEq, Repr

namespace Packet

def addString (packet : Packet) (text : String) : Packet :=
  { packet with strings := packet.strings ++ [text] }

def withPayload (packet : Packet) (bytes : List UInt8) : Packet :=
  { packet with payload := bytes }

def readString (packet : Packet) (index : Nat) : Option String := packet.strings[index]?

def writeString? (packet : Packet) (index : Nat) (text : String) : Option Packet :=
  if index < packet.strings.length then
    some { packet with strings := packet.strings.set index text }
  else
    none

end Packet

end PacketFlow
