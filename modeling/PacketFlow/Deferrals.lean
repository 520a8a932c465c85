/-! Outstanding deferrals of a packet.

Each listener that defers completion adds one before its deferred work starts and releases it once
when done. Nothing checks the balance, so the count may be negative.
-/

set_option autoImplicit false

namespace PacketFlow

structure Deferrals where
  outstanding : Int32 := 0
  deriving DecidableEq, Repr

namespace Deferrals

def add (d : Deferrals) : Deferrals := ⟨d.outstanding + 1⟩

def release (d : Deferrals) : Deferrals := ⟨d.outstanding - 1⟩

/-- Whether transmission has to wait. -/
def isHolding (d : Deferrals) : Bool := 0 < d.outstanding

end Deferrals

end PacketFlow
