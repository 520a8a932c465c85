import PacketFlow.Marker

/-! Readable form of a marker, on one line or with one field on each line. -/

set_option autoImplicit false

namespace PacketFlow.Marker

/-- A displayed field: a single word, or a word that wraps another. -/
inductive FieldText where
  | plain (value : String)
  | wrapped (name value : String)

def FieldText.inline : FieldText → String
  | .plain value => value
  | .wrapped name value => name ++ "(" ++ value ++ ")"

def FieldText.spread : FieldText → String
  | .plain value => value
  | .wrapped name value => name ++ "(\n        " ++ value ++ ",\n    )"

def displayFields (marker : Marker) : List (String × FieldText) :=
  let word (value : UInt64) : FieldText := .plain value.toNat.repr
  let flag (value : Bool) : FieldText := .plain (if value then "true" else "false")
  [("initial_time", word marker.initialTime),
    ("timeout", word marker.timeout),
    ("original_sending_index", word marker.admittedIndex),
    ("new_sending_index", word marker.newIndex),
    ("queued_sending_index", match marker.queuedIndex with
      | none => .plain "None"
      | some index => .wrapped "Some" index.toNat.repr),
    ("processed", flag marker.processed),
    ("transmitted", flag marker.transmitted),
    ("async_cancelled", flag marker.asyncCancelled),
    ("processing_delay", .plain (toString marker.deferrals.outstanding.toInt)),
    ("worker_id", word marker.worker)]

/-- All on one line. -/
def display (marker : Marker) : String :=
  let fields := marker.displayFields.map fun field => field.1 ++ ": " ++ field.2.inline ++ ", "
  "AsyncMarker \x7b " ++ String.join fields ++ ".. \x7d"

/-- One field on each line. -/
def displayLines (marker : Marker) : String :=
  let fields := marker.displayFields.map fun field =>
    "    " ++ field.1 ++ ": " ++ field.2.spread ++ ",\n"
  "AsyncMarker \x7b\n" ++ String.join fields ++ "    ..\n\x7d"

end PacketFlow.Marker
