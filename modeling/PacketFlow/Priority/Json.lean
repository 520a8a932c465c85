import PacketFlow.Priority
import PacketFlow.Json.Printer
import PacketFlow.Json.Reader

/-! Priority classes in JSON: the stored name as a string. An object whose only member is that name
with the value null is read as well. -/

set_option autoImplicit false

namespace PacketFlow.Priority

def toText (p : Priority) : String := (Json.text p.name).render

def ofJson? : Json → Option Priority
  | .string (some name) => ofName? name
  | .object [(some name, .null)] => ofName? name
  | _ => none

def ofText? (text : String) : Option Priority := (Json.parse? text).bind ofJson?

end PacketFlow.Priority
