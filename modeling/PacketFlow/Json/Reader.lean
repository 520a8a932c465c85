import PacketFlow.Json.Lexer

/-! Values from tokens.

Containers under construction are kept on a stack, so nesting is limited by nothing. A text is
read only as a whole: after the value nothing but blanks may follow.
-/

set_option autoImplicit false

namespace PacketFlow.Json

/-- A container under construction; its finished parts are held in reverse. -/
inductive Container where
  | array (items : List Json)
  /-- An object together with the name whose value is next. -/
  | object (members : List Member) (name : Option String)

/-- What may come next in a text, given what has been read of it. -/
inductive Reader where
  | atValue (stack : List Container)
  /-- A value, or the end of an array that has just been opened. -/
  | atFirstItem (stack : List Container)
  /-- A name, or the end of an object that has just been opened. -/
  | atFirstName (stack : List Container)
  | atName (members : List Member) (stack : List Container)
  | atColon (members : List Member) (name : Option String) (stack : List Container)
  /-- What continues or ends the innermost container after a finished value. -/
  | after (value : Json) (stack : List Container)

namespace Reader

/-- Take the first token of a value. -/
def begin? (stack : List Container) : Token → Option Reader
  | .scalar value => some (.after value stack)
  | .openArray => some (.atFirstItem stack)
  | .openObject => some (.atFirstName stack)
  | _ => none

def named? (members : List Member) (stack : List Container) : Token → Option Reader
  | .scalar (.string name) => some (.atColon members name stack)
  | _ => none

def step? : Reader → Token → Option Reader
  | .atValue stack, token => begin? stack token
  | .atFirstItem stack, .closeArray => some (.after (.array []) stack)
  | .atFirstItem stack, token => begin? (.array [] :: stack) token
  | .atFirstName stack, .closeObject => some (.after (.object []) stack)
  | .atFirstName stack, token => named? [] stack token
  | .atName members stack, token => named? members stack token
  | .atColon members name stack, .colon => some (.atValue (.object members name :: stack))
  | .after value (.array items :: stack), .comma =>
    some (.atValue (.array (value :: items) :: stack))
  | .after value (.array items :: stack), .closeArray =>
    some (.after (.array (value :: items).reverse) stack)
  | .after value (.object members name :: stack), .comma =>
    some (.atName ((name, value) :: members) stack)
  | .after value (.object members name :: stack), .closeObject =>
    some (.after (.object ((name, value) :: members).reverse) stack)
  | _, _ => none

def result? : Reader → Option Json
  | .after value [] => some value
  | _ => none

end Reader

def ofTokens? (tokens : List Token) : Option Json :=
  (tokens.foldlM Reader.step? (.atValue [])).bind Reader.result?

/-- Read a text that holds exactly one value. -/
def parse? (text : String) : Option Json := (tokens? text).bind ofTokens?

end PacketFlow.Json
