import PacketFlow.Listener

/-! Resumable positions in a chain.

A cursor stands before the next listener to visit. It is a value: advancing it leaves every other
copy where it was, so a packet handed over in the middle of its chain resumes where it stopped.
-/

set_option autoImplicit false

namespace PacketFlow

structure Cursor where
  chain : Chain
  position : Nat
  position_le : position ≤ chain.length
  deriving DecidableEq, Repr

namespace Cursor

/-- Resume a chain; a position past the end is the end. -/
def resume (chain : Chain) (position : Nat) : Cursor :=
  ⟨chain, min position chain.length, Nat.min_le_right _ _⟩

def start (chain : Chain) : Cursor := ⟨chain, 0, Nat.zero_le _⟩

def left (cursor : Cursor) : List Listener := cursor.chain.listeners.drop cursor.position

def remaining (cursor : Cursor) : Nat := cursor.chain.length - cursor.position

def hasNext (cursor : Cursor) : Bool := cursor.position < cursor.chain.length

def peek (cursor : Cursor) : Option Listener := cursor.chain.get? cursor.position

/-- Lower and upper bound on the number of listeners still to come. -/
def bounds (cursor : Cursor) : Nat × Nat := (cursor.remaining, cursor.remaining)

/-- Visit the next listener, if there is one. -/
def next (cursor : Cursor) : Option Listener × Cursor :=
  if inside : cursor.position < cursor.chain.length then
    (some cursor.chain.listeners[cursor.position], ⟨cursor.chain, cursor.position + 1, inside⟩)
  else
    (none, cursor)

/-- Pass over `count` listeners and visit the one after them. When fewer are left the cursor moves
to the end. -/
def nth (cursor : Cursor) (count : Nat) : Option Listener × Cursor :=
  (resume cursor.chain (cursor.position + count)).next

def rest (cursor : Cursor) : List Listener × Cursor :=
  (cursor.left, ⟨cursor.chain, cursor.chain.length, Nat.le_refl _⟩)

theorem length_left (cursor : Cursor) : cursor.left.length = cursor.remaining := by
  simp [left, remaining, Chain.length]

theorem peek_eq_head? (cursor : Cursor) : cursor.peek = cursor.left.head? := by
  simp [peek, left, Chain.get?, List.head?_drop]

theorem next_fst (cursor : Cursor) : cursor.next.1 = cursor.left.head? := by
  unfold next left
  split
  next inside => simp [List.head?_drop, List.getElem?_eq_getElem inside]
  next outside =>
    have past : cursor.chain.listeners.length ≤ cursor.position := Nat.le_of_not_lt outside
    simp [List.drop_eq_nil_of_le past]

theorem left_next (cursor : Cursor) : cursor.next.2.left = cursor.left.tail := by
  unfold next left
  split
  next inside => simp [List.tail_drop]
  next outside =>
    have past : cursor.chain.listeners.length ≤ cursor.position := Nat.le_of_not_lt outside
    simp [List.drop_eq_nil_of_le past]

theorem left_resume (chain : Chain) (position : Nat) :
    (resume chain position).left = chain.listeners.drop position := by
  simp only [left, resume, Chain.length]
  by_cases past : chain.listeners.length ≤ position
  · rw [Nat.min_eq_right past, List.drop_length, List.drop_eq_nil_of_le past]
  · rw [Nat.min_eq_left (Nat.le_of_not_le past)]

end Cursor

end PacketFlow
