import Std.Data.HashSet.Basic
import Std.Data.TreeSet.Basic
import PacketFlow.Marker

/-! The order of transmission.

Markers compare, hash and test equal by their new index alone: the index is a priority, not an
identity. Two packets with one index are interchangeable here, and a queue that has to keep both
needs a tie-breaker of its own.
-/

set_option autoImplicit false

namespace PacketFlow.Marker

protected def compare (a b : Marker) : Ordering := compare a.newIndex b.newIndex

instance : Ord Marker := ⟨Marker.compare⟩

instance : BEq Marker := ⟨fun a b => a.newIndex == b.newIndex⟩

instance : Hashable Marker := ⟨fun a => hash a.newIndex⟩

def le (a b : Marker) : Bool := (compare a b).isLE

def lt (a b : Marker) : Bool := (compare a b).isLT

/-- Comparison with a partner that may be missing; a missing one sorts before every marker. -/
def compareTo (a : Marker) : Option Marker → Ordering
  | some b => compare a b
  | none => .gt

/-- Markers in the order of transmission; equal ones keep their places. -/
def sort (markers : List Marker) : List Marker := markers.mergeSort le

def least? : List Marker → Option Marker
  | [] => none
  | first :: others => some (others.foldl (fun best m => if m.lt best then m else best) first)

def greatest? : List Marker → Option Marker
  | [] => none
  | first :: others => some (others.foldl (fun best m => if m.lt best then best else m) first)

def orderedSet (markers : List Marker) : Std.TreeSet Marker := Std.TreeSet.ofList markers

def hashedSet (markers : List Marker) : Std.HashSet Marker := Std.HashSet.ofList markers

end PacketFlow.Marker
