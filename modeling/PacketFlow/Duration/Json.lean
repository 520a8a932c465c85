import PacketFlow.Duration
import PacketFlow.Json.Record

/-! Durations in JSON: a record of seconds and nanoseconds without other members. -/

set_option autoImplicit false

namespace PacketFlow.Duration

def layout : Json.Layout := { names := ["secs", "nanos"], closed := true }

def toJson (span : Duration) : Json :=
  .record [("secs", .ofUInt64 span.secs), ("nanos", .ofUInt32 span.nanos)]

def ofFields (absent : String → Json.DecodeError) (fields : Json.Fields) :
    Except Json.DecodeError Duration := do
  let secs ← fields.required absent (Json.taking Json.uint64?) "secs"
  let nanos ← fields.required absent (Json.taking Json.uint32?) "nanos"
  match ofParts? secs nanos with
  | some span => .ok span
  | none => .error .refused

def ofJson : Json → Except Json.DecodeError Duration := layout.read ofFields

end PacketFlow.Duration
