/-! Words that stop at the largest value instead of wrapping.

Deadlines and send indices are unsigned 64-bit words. Where exact arithmetic would leave the
range the result is the largest word, and the laws here say so in natural numbers.
-/

set_option autoImplicit false

namespace PacketFlow

/-- The word nearest to a natural number: itself when it fits, the largest word otherwise. -/
def saturate (n : Nat) : UInt64 := UInt64.ofNat (min n 18446744073709551615)

@[simp] theorem toNat_saturate (n : Nat) : (saturate n).toNat = min n 18446744073709551615 := by
  simp only [saturate, UInt64.toNat_ofNat']
  exact Nat.mod_eq_of_lt (by omega)

/-- Addition that stops at the largest word. -/
def satAdd (a b : UInt64) : UInt64 := saturate (a.toNat + b.toNat)

theorem toNat_satAdd (a b : UInt64) :
    (satAdd a b).toNat = min (a.toNat + b.toNat) 18446744073709551615 :=
  toNat_saturate _

/-- The largest word. -/
def topWord : UInt64 := saturate 18446744073709551615

theorem toNat_topWord : topWord.toNat = 18446744073709551615 := by simp [topWord]

end PacketFlow
