/-! What can go wrong, as causes, and how each cause is worded. -/

set_option autoImplicit false

namespace PacketFlow

inductive StreamFailure where
  /-- The operation was carried out and failed. -/
  | invocation (cause : String)
  /-- The operation was refused. -/
  | access (reason : String)
  deriving DecidableEq, Repr

def StreamFailure.message : StreamFailure → String
  | .invocation cause => "packet stream invocation failed: " ++ cause
  | .access reason => "packet stream access denied: " ++ reason

inductive MarkerFailure where
  /-- A marker needs the stream that will transmit its packet. -/
  | missingStream
  /-- The stream failed; the marker stays untransmitted. -/
  | transmission (source : StreamFailure)
  /-- Only events with a marker can be queued. -/
  | missingMarker (event : Nat)
  | incompatibleSnapshot (found expected : UInt32)
  deriving DecidableEq, Repr

def MarkerFailure.message : MarkerFailure → String
  | .missingStream => "packet stream cannot be missing"
  | .transmission _ => "cannot send packet"
  | .missingMarker event => "packet event " ++ event.repr ++ " has no asynchronous marker"
  | .incompatibleSnapshot found expected =>
    "marker state version " ++ found.toNat.repr ++ " is not supported (expected " ++
      expected.toNat.repr ++ ")"

inductive FlagFailure where
  | illegalArgument (detail : String)
  | access (detail : String)
  | runtime (detail : String)
  deriving DecidableEq, Repr

def FlagFailure.message : FlagFailure → String
  | .illegalArgument detail => "illegal argument while reading async flag: " ++ detail
  | .access detail => "unable to access the packet async flag: " ++ detail
  | .runtime detail => "runtime error while reading async flag: " ++ detail

end PacketFlow
