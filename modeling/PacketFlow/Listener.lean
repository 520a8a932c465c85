import PacketFlow.Priority

/-! Listeners in the order in which they run.

A chain is fixed once built: lower priority classes first, and registration order within a class.
-/

set_option autoImplicit false

namespace PacketFlow

structure Listener where
  priority : Priority
  handler : UInt64
  deriving DecidableEq, Repr

/-- Whether a listener may run before another. -/
def Listener.le (a b : Listener) : Bool := a.priority.le b.priority

theorem Listener.le_trans (a b c : Listener) (ab : a.le b = true) (bc : b.le c = true) :
    a.le c = true := by
  simp only [le, Priority.le, decide_eq_true_eq] at ab bc ⊢
  omega

theorem Listener.le_total (a b : Listener) : (a.le b || b.le a) = true := by
  simp only [le, Priority.le, Bool.or_eq_true, decide_eq_true_eq]
  omega

structure Chain where
  listeners : List Listener
  ascending : listeners.Pairwise (fun a b => a.le b = true)
  deriving DecidableEq, Repr

namespace Chain

/-- The chain of listeners registered in the given order. -/
def ofList (registered : List Listener) : Chain where
  listeners := registered.mergeSort Listener.le
  ascending := List.pairwise_mergeSort Listener.le_trans Listener.le_total registered

def length (chain : Chain) : Nat := chain.listeners.length

def get? (chain : Chain) (index : Nat) : Option Listener := chain.listeners[index]?

end Chain

end PacketFlow
