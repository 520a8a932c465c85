import PacketFlow.Snapshot
import PacketFlow.Json.Printer
import PacketFlow.Json.Record

/-! Snapshots in JSON. The two times and the two indices are required, every other field has a
default. -/

set_option autoImplicit false

namespace PacketFlow.Snapshot

def layout : Json.Layout where
  names := ["version", "initial_time", "timeout", "original_sending_index", "new_sending_index",
    "queued_sending_index", "processed", "transmitted", "async_cancelled", "processing_delay"]

def toJson (s : Snapshot) : Json :=
  .record [
    ("version", .ofUInt32 s.version),
    ("initial_time", .ofUInt64 s.initialTime),
    ("timeout", .ofUInt64 s.timeout),
    ("original_sending_index", .ofUInt64 s.admittedIndex),
    ("new_sending_index", .ofUInt64 s.newIndex),
    ("queued_sending_index", .ofOption .ofUInt64 s.queuedIndex),
    ("processed", .bool s.processed),
    ("transmitted", .bool s.transmitted),
    ("async_cancelled", .bool s.asyncCancelled),
    ("processing_delay", .ofInt32 s.delay)]

/-- A word or null. -/
def index? : Json → Option (Option UInt64)
  | .null => some none
  | value => value.uint64?.map some

theorem index?_ofOption (index : Option UInt64) :
    index? (.ofOption .ofUInt64 index) = some index := by
  cases index with
  | none => rfl
  | some word =>
    have read : index? (.ofUInt64 word) = (Json.uint64? (.ofUInt64 word)).map some := rfl
    rw [Json.ofOption, read, Json.uint64?_ofUInt64]
    rfl

def ofFields (absent : String → Json.DecodeError) (fields : Json.Fields) :
    Except Json.DecodeError Snapshot := do
  let word := fields.required absent (Json.taking Json.uint64?)
  let flag (name : String) := fields.optional (Json.taking Json.bool?) name false
  return {
    version := ← fields.optional (Json.taking Json.uint32?) "version" currentVersion
    initialTime := ← word "initial_time"
    timeout := ← word "timeout"
    admittedIndex := ← word "original_sending_index"
    newIndex := ← word "new_sending_index"
    queuedIndex := ← fields.optional (Json.taking index?) "queued_sending_index" none
    processed := ← flag "processed"
    transmitted := ← flag "transmitted"
    asyncCancelled := ← flag "async_cancelled"
    delay := ← fields.optional (Json.taking Json.int32?) "processing_delay" 0 }

def ofJson : Json → Except Json.DecodeError Snapshot := layout.read ofFields

def ofText : String → Except Json.DecodeError Snapshot := Json.ofText ofJson

def toText (s : Snapshot) : String := s.toJson.render

end PacketFlow.Snapshot
