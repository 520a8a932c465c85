import PacketFlow.Json.Reader

/-! Records in JSON: values with named fields.

A record is written as an object, or as an array of its fields in declaration order whose tail may
be left out. In an object the order of the members does not matter, and no field may occur twice.
Both forms are first brought into one table of fields, from which the record is then built.
-/

set_option autoImplicit false

namespace PacketFlow.Json

/-- Why a text is not the record asked for. -/
inductive DecodeError where
  /-- Ill-formed text, or a value that a field does not take. -/
  | refused
  | missing (field : String)
  | duplicate (field : String)
  deriving DecidableEq, Repr

def DecodeError.message? : DecodeError → Option String
  | .refused => none
  | .missing field => some ("missing field `" ++ field ++ "`")
  | .duplicate field => some ("duplicate field `" ++ field ++ "`")

/-- The fields of a record: their names in declaration order, and whether other members are
refused or ignored. -/
structure Layout where
  names : List String
  closed : Bool := false

abbrev Fields := List (String × Json)

namespace Layout

/-- Collect the fields among the members of an object, in their order. Every name has to be a text,
also one that is ignored. -/
def ofMembers (layout : Layout) (found : Fields) : List Member → Except DecodeError Fields
  | [] => .ok found
  | (none, _) :: _ => .error .refused
  | (some name, value) :: members =>
    if name ∈ layout.names then
      if (found.lookup name).isSome then .error (.duplicate name)
      else ofMembers layout ((name, value) :: found) members
    else if layout.closed then .error .refused
    else ofMembers layout found members

/-- Read a record of this layout by `build`, which is told what to answer for an absent field. -/
def read {α : Type} (layout : Layout)
    (build : (String → DecodeError) → Fields → Except DecodeError α) :
    Json → Except DecodeError α
  | .object members => layout.ofMembers [] members >>= build .missing
  | .array items =>
    if items.length ≤ layout.names.length then
      build (fun _ => .refused) (layout.names.zip items)
    else
      .error .refused
  | _ => .error .refused

end Layout

/-- A reader of values from a partial one. -/
def taking {α : Type} (read? : Json → Option α) (value : Json) : Except DecodeError α :=
  match read? value with
  | some result => .ok result
  | none => .error .refused

namespace Fields

def required {α : Type} (fields : Fields) (absent : String → DecodeError)
    (read : Json → Except DecodeError α) (name : String) : Except DecodeError α :=
  match fields.lookup name with
  | some value => read value
  | none => .error (absent name)

def optional {α : Type} (fields : Fields) (read : Json → Except DecodeError α) (name : String)
    (default : α) : Except DecodeError α :=
  match fields.lookup name with
  | some value => read value
  | none => .ok default

end Fields

def ofText {α : Type} (read : Json → Except DecodeError α) (text : String) :
    Except DecodeError α :=
  match parse? text with
  | some value => read value
  | none => .error .refused

end PacketFlow.Json
