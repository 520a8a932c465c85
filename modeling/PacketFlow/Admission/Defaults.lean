import PacketFlow.Duration.Json
import PacketFlow.Json.Printer

/-! What admission assumes where a packet says nothing, and its form in JSON. -/

set_option autoImplicit false

namespace PacketFlow

structure Defaults where
  /-- How long a packet may be processed before it is rejected. -/
  timeoutDelta : Duration := .ofMillis 1800000
  sendingDelta : UInt64 := 0
  deriving DecidableEq, Repr

namespace Defaults

/-- Thirty minutes, and no index skipped. -/
def standard : Defaults := {}

def layout : Json.Layout := { names := ["timeout_delta", "sending_delta"] }

def toJson (d : Defaults) : Json :=
  .record [("timeout_delta", d.timeoutDelta.toJson), ("sending_delta", .ofUInt64 d.sendingDelta)]

/-- No field is required, so nothing is ever reported absent. -/
def ofFields (_ : String → Json.DecodeError) (fields : Json.Fields) :
    Except Json.DecodeError Defaults := do
  return {
    timeoutDelta := ← fields.optional Duration.ofJson "timeout_delta" standard.timeoutDelta
    sendingDelta :=
      ← fields.optional (Json.taking Json.uint64?) "sending_delta" standard.sendingDelta }

def ofJson : Json → Except Json.DecodeError Defaults := layout.read ofFields

def ofText : String → Except Json.DecodeError Defaults := Json.ofText ofJson

def toText (d : Defaults) : String := d.toJson.render

end Defaults

end PacketFlow
