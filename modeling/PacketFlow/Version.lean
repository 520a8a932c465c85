import PacketFlow.Text.Blank

/-! Releases of the game server.

A release is written as one to three decimal components joined by dots; components left out are
zero. Releases are ordered component by component.
-/

set_option autoImplicit false

namespace PacketFlow

structure Version where
  major : UInt32
  minor : UInt32
  patch : UInt32
  deriving DecidableEq, Repr

namespace Version

/-- The release that dropped the flag which told of each packet whether it is asynchronous. -/
def bountifulUpdate : Version := ⟨1, 8, 0⟩

protected def compare (a b : Version) : Ordering :=
  (compare a.major b.major).then ((compare a.minor b.minor).then (compare a.patch b.patch))

instance : Ord Version := ⟨Version.compare⟩

def isAtLeast (a b : Version) : Bool := (compare a b).isGE

/-- A number that fits a component: ASCII digits after at most one plus sign. -/
def component? (cs : List Char) : Option UInt32 :=
  let digits := match cs with
    | '+' :: rest => rest
    | _ => cs
  let value := Nat.ofDigitChars 10 digits 0
  if digits ≠ [] ∧ digits.all Char.isDigit ∧ value < UInt32.size then some (UInt32.ofNat value)
  else none

/-- Read a release; blanks around it do not matter. -/
def parse? (text : String) : Option Version := do
  match ((Text.trim text.toList).splitOn '.') with
  | [major] => return ⟨← component? major, 0, 0⟩
  | [major, minor] => return ⟨← component? major, ← component? minor, 0⟩
  | [major, minor, patch] => return ⟨← component? major, ← component? minor, ← component? patch⟩
  | _ => none

def display (v : Version) : String :=
  s!"{v.major.toNat.repr}.{v.minor.toNat.repr}.{v.patch.toNat.repr}"

end Version

end PacketFlow
