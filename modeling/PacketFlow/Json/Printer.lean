import PacketFlow.Json

/-! Compact JSON text: no blanks, members in their order, only the necessary escapes. -/

set_option autoImplicit false

namespace PacketFlow.Json

/-- A character inside a string literal. -/
def escape (c : Char) : List Char :=
  if c = '"' then ['\\', '"']
  else if c = '\\' then ['\\', '\\']
  else if c.toNat < 0x20 then
    ['\\', 'u', '0', '0', Nat.digitChar (c.toNat / 16), Nat.digitChar (c.toNat % 16)]
  else [c]

/-- A string literal. One that denotes no text is written as a lone surrogate. -/
def literal : Option String → List Char
  | some text => '"' :: text.toList.flatMap escape ++ ['"']
  | none => ['"', '\\', 'u', 'd', '8', '0', '0', '"']

def integerChars : Int → List Char
  | .ofNat n => Nat.toDigits 10 n
  | .negSucc n => '-' :: Nat.toDigits 10 (n + 1)

mutual

def chars : Json → List Char
  | .null => ['n', 'u', 'l', 'l']
  | .bool true => ['t', 'r', 'u', 'e']
  | .bool false => ['f', 'a', 'l', 's', 'e']
  | .integer value => integerChars value
  | .nonInteger => ['-', '0']
  | .string text => literal text
  | .array [] => ['[', ']']
  | .array (item :: items) => '[' :: chars item ++ itemChars items ++ [']']
  | .object [] => ['{', '}']
  | .object ((name, value) :: members) =>
    '{' :: literal name ++ ':' :: chars value ++ memberChars members ++ ['}']

def itemChars : List Json → List Char
  | [] => []
  | item :: items => ',' :: chars item ++ itemChars items

def memberChars : List (Option String × Json) → List Char
  | [] => []
  | (name, value) :: members => ',' :: literal name ++ ':' :: chars value ++ memberChars members

end

def render (value : Json) : String := String.ofList value.chars

end PacketFlow.Json
