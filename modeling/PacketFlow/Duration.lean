import PacketFlow.Saturation

/-! Spans of time with nanosecond precision, and their length in whole milliseconds. -/

set_option autoImplicit false

namespace PacketFlow

/-- Whole seconds and a remainder of less than one second. -/
structure Duration where
  secs : UInt64
  nanos : UInt32
  nanos_lt : nanos.toNat < 1000000000 := by decide
  deriving DecidableEq, Repr

namespace Duration

def zero : Duration := { secs := 0, nanos := 0 }

def max : Duration := { secs := topWord, nanos := 999999999 }

def ofMillis (millis : UInt64) : Duration where
  secs := millis / 1000
  nanos := UInt32.ofNat (millis.toNat % 1000 * 1000000)
  nanos_lt := by
    simp only [UInt32.toNat_ofNat']
    exact Nat.lt_of_le_of_lt (Nat.mod_le _ _) (by omega)

/-- Seconds and any number of nanoseconds; full seconds among the latter are carried. There is no
span when the carry leaves the range of the seconds. -/
def ofParts? (secs : UInt64) (nanos : UInt32) : Option Duration :=
  let carried := secs.toNat + nanos.toNat / 1000000000
  if carried < UInt64.size then
    some {
      secs := UInt64.ofNat carried
      nanos := UInt32.ofNat (nanos.toNat % 1000000000)
      nanos_lt := by
        simp only [UInt32.toNat_ofNat']
        exact Nat.lt_of_le_of_lt (Nat.mod_le _ _) (Nat.mod_lt _ (by decide)) }
  else
    none

/-- The exact length of a span. -/
def nanoseconds (span : Duration) : Nat := span.secs.toNat * 1000000000 + span.nanos.toNat

def exactMillis (span : Duration) : Nat := span.secs.toNat * 1000 + span.nanos.toNat / 1000000

/-- Whole milliseconds as a word; a span too long for one counts as the largest word. -/
def millis (span : Duration) : UInt64 := saturate span.exactMillis

theorem exactMillis_eq (span : Duration) : span.exactMillis = span.nanoseconds / 1000000 := by
  simp only [exactMillis, nanoseconds]
  omega

theorem toNat_millis (span : Duration) :
    span.millis.toNat = min span.exactMillis 18446744073709551615 :=
  toNat_saturate _

theorem ofParts?_parts (span : Duration) : ofParts? span.secs span.nanos = some span := by
  obtain ⟨secs, nanos, small⟩ := span
  have carry : nanos.toNat / 1000000000 = 0 := Nat.div_eq_of_lt small
  have fits : secs.toNat + nanos.toNat / 1000000000 < UInt64.size := by
    rw [carry]; exact secs.toNat_lt_size
  simp only [ofParts?]
  rw [if_pos fits]
  simp [carry, Nat.mod_eq_of_lt small]

end Duration

end PacketFlow
