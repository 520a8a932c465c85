import PacketFlow.Admission.Defaults
import PacketFlow.Marker
import PacketFlow.Notice

/-! Admission of packets into asynchronous processing.

Each admission reserves the skipped indices together with its own, so no later packet gets one of
them. The last index repeats once the range is used up.
-/

set_option autoImplicit false

namespace PacketFlow

/-- Gives out send indices for the packets of one stream. -/
structure Admission where
  stream : StreamId
  defaults : Defaults := .standard
  /-- The highest index given out so far. -/
  current : UInt64 := 0

namespace Admission

/-- The index that the next packet gets when so many are skipped before it. -/
def nextIndex (admission : Admission) (delta : UInt64) : UInt64 :=
  satAdd admission.current (satAdd delta 1)

def issueAt (admission : Admission) (delta : UInt64) (timeoutDelta : Duration) (time : UInt64) :
    Marker × Admission × List Notice :=
  let index := admission.nextIndex delta
  (Marker.fresh admission.stream index time timeoutDelta,
    { admission with current := index },
    if index = topWord then [.indicesExhausted delta] else [])

def issue (admission : Admission) (time : UInt64) : Marker × Admission × List Notice :=
  admission.issueAt admission.defaults.sendingDelta admission.defaults.timeoutDelta time

theorem toNat_nextIndex (admission : Admission) (delta : UInt64) :
    (admission.nextIndex delta).toNat =
      min (admission.current.toNat + (delta.toNat + 1)) 18446744073709551615 := by
  have one : (1 : UInt64).toNat = 1 := rfl
  simp only [nextIndex, toNat_satAdd, one]
  omega

end Admission

end PacketFlow
