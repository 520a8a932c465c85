/-! Priority classes of listeners.

Lower classes run first, so higher ones have the final say over a packet. Monitors only observe
and run last.
-/

set_option autoImplicit false

namespace PacketFlow

inductive Priority where
  | lowest
  | low
  | normal
  | high
  | highest
  | monitor
  deriving DecidableEq, Repr

namespace Priority

instance : Inhabited Priority := ⟨.normal⟩

def all : List Priority := [.lowest, .low, .normal, .high, .highest, .monitor]

def rank : Priority → Nat
  | .lowest => 0
  | .low => 1
  | .normal => 2
  | .high => 3
  | .highest => 4
  | .monitor => 5

instance : Ord Priority := ⟨fun a b => compare a.rank b.rank⟩

def le (a b : Priority) : Bool := decide (a.rank ≤ b.rank)

def name : Priority → String
  | .lowest => "Lowest"
  | .low => "Low"
  | .normal => "Normal"
  | .high => "High"
  | .highest => "Highest"
  | .monitor => "Monitor"

def display : Priority → String
  | .lowest => "lowest"
  | .low => "low"
  | .normal => "normal"
  | .high => "high"
  | .highest => "highest"
  | .monitor => "monitor"

def ofName? (text : String) : Option Priority := all.find? fun p => p.name == text

@[simp] theorem ofName?_name (p : Priority) : ofName? p.name = some p := by
  cases p <;> decide

/-- Classes in running order; equal ones keep their places. -/
def sort (classes : List Priority) : List Priority := classes.mergeSort le

end Priority

end PacketFlow
