import PacketFlow.Scenario.Command

/-! Names and what they are bound to. A name can be bound anew; objects that hold the old binding
keep it. -/

set_option autoImplicit false

namespace PacketFlow.Scenario

/-- Bindings of names, the latest first. -/
structure Table (α : Type) where
  bindings : List (Name × α) := []

namespace Table

variable {α : Type}

def find? (table : Table α) (name : Name) : Option α := table.bindings.lookup name

def drop (table : Table α) (name : Name) : Table α :=
  ⟨table.bindings.filter fun binding => binding.1 != name⟩

def bind (table : Table α) (name : Name) (value : α) : Table α :=
  ⟨(name, value) :: (table.drop name).bindings⟩

/-- The names bound to a value. -/
def namesOf [BEq α] (table : Table α) (value : α) : List Name :=
  (table.bindings.filter fun binding => binding.2 == value).map (·.1)

end Table

end PacketFlow.Scenario
