/-! JSON values.

Objects keep their members in written order, repeated names included, because readers of records
refuse repetitions. A string literal may name half of a surrogate pair; it is well formed but
denotes no text.
-/

set_option autoImplicit false

namespace PacketFlow

inductive Json where
  | null
  | bool (value : Bool)
  /-- A literal without fraction and exponent. Minus zero is not one of them. -/
  | integer (value : Int)
  /-- Any other number. No record holds one, so its value is not kept. -/
  | nonInteger
  /-- A string literal and the text that it denotes, if any. -/
  | string (text : Option String)
  | array (items : List Json)
  | object (members : List (Option String × Json))
  deriving Inhabited, Repr

namespace Json

/-- A name and a value, as written in an object. -/
abbrev Member := Option String × Json

def text (value : String) : Json := .string (some value)

/-- An object whose names are all texts. -/
def record (fields : List (String × Json)) : Json :=
  .object (fields.map fun field => (some field.1, field.2))

def bool? : Json → Option Bool
  | .bool value => some value
  | _ => none

def string? : Json → Option String
  | .string text => text
  | _ => none

def items? : Json → Option (List Json)
  | .array items => some items
  | _ => none

def natBelow? (bound : Nat) : Json → Option Nat
  | .integer (.ofNat value) => if value < bound then some value else none
  | _ => none

def uint8? (value : Json) : Option UInt8 := (value.natBelow? UInt8.size).map UInt8.ofNat

def uint32? (value : Json) : Option UInt32 := (value.natBelow? UInt32.size).map UInt32.ofNat

def uint64? (value : Json) : Option UInt64 := (value.natBelow? UInt64.size).map UInt64.ofNat

def int32? : Json → Option Int32
  | .integer value =>
    if -2147483648 ≤ value ∧ value ≤ 2147483647 then some (Int32.ofInt value) else none
  | _ => none

def ofUInt32 (value : UInt32) : Json := .integer value.toNat

def ofUInt64 (value : UInt64) : Json := .integer value.toNat

def ofInt32 (value : Int32) : Json := .integer value.toInt

def ofOption {α : Type} (encode : α → Json) : Option α → Json
  | none => .null
  | some value => encode value

@[simp] theorem uint32?_ofUInt32 (value : UInt32) : (ofUInt32 value).uint32? = some value := by
  have bound := value.toNat_lt
  simp [uint32?, natBelow?, ofUInt32, bound]

@[simp] theorem uint64?_ofUInt64 (value : UInt64) : (ofUInt64 value).uint64? = some value := by
  have bound := value.toNat_lt
  simp [uint64?, natBelow?, ofUInt64, bound]

@[simp] theorem int32?_ofInt32 (value : Int32) : (ofInt32 value).int32? = some value := by
  have low := value.le_toInt
  have high := value.toInt_lt
  simp only [int32?, ofInt32]
  rw [if_pos ⟨by omega, by omega⟩]
  simp

end Json

end PacketFlow
