import PacketFlow.Json

/-! Lexemes of JSON text.

The lexer is a machine that takes one character at a time; between lexemes only the four blanks
of the grammar are skipped. Words and numerals are taken as long as characters can belong to them
and are checked when they end.
-/

set_option autoImplicit false

namespace PacketFlow.Json

inductive Token where
  | openArray
  | closeArray
  | openObject
  | closeObject
  | comma
  | colon
  /-- A value without parts. -/
  | scalar (value : Json)
  deriving Inhabited, Repr

/-- Part of a string literal: a character, or an escaped UTF-16 unit. -/
inductive TextUnit where
  | char (value : Char)
  | escaped (value : Nat)
  deriving Repr

/-- The text of a literal. Escaped surrogates count in pairs of a high and a low one. -/
def TextUnit.decode : List TextUnit → Option (List Char)
  | [] => some []
  | .char c :: rest => (decode rest).map (c :: ·)
  | .escaped high :: rest =>
    if 0xD800 ≤ high ∧ high < 0xDC00 then
      match rest with
      | .escaped low :: rest =>
        if 0xDC00 ≤ low ∧ low < 0xE000 then
          (decode rest).map
            (Char.ofNat (0x10000 + (high - 0xD800) * 0x400 + (low - 0xDC00)) :: ·)
        else
          none
      | _ => none
    else if 0xDC00 ≤ high ∧ high < 0xE000 then
      none
    else
      (decode rest).map (Char.ofNat high :: ·)

def isBlank (c : Char) : Bool := c == ' ' || c == '\t' || c == '\n' || c == '\r'

def isNumeralChar (c : Char) : Bool :=
  c.isDigit || c == '-' || c == '+' || c == '.' || c == 'e' || c == 'E'

def escapeChar? : Char → Option Char
  | '"' => some '"'
  | '\\' => some '\\'
  | '/' => some '/'
  | 'b' => some '\x08'
  | 'f' => some '\x0c'
  | 'n' => some '\n'
  | 'r' => some '\r'
  | 't' => some '\t'
  | _ => none

def hexValue? (c : Char) : Option Nat :=
  if c.isDigit then some (c.toNat - 48)
  else if 'a' ≤ c ∧ c ≤ 'f' then some (c.toNat - 87)
  else if 'A' ≤ c ∧ c ≤ 'F' then some (c.toNat - 55)
  else none

def word? (letters : List Char) : Option Json :=
  if letters = ['n', 'u', 'l', 'l'] then some .null
  else if letters = ['t', 'r', 'u', 'e'] then some (.bool true)
  else if letters = ['f', 'a', 'l', 's', 'e'] then some (.bool false)
  else none

def isDigits (digits : List Char) : Bool := !digits.isEmpty && digits.all Char.isDigit

/-- Digits without a superfluous leading zero. -/
def isWhole (digits : List Char) : Bool :=
  isDigits digits && (digits.head? != some '0' || digits.length == 1)

def isExponent : List Char → Bool
  | '+' :: digits => isDigits digits
  | '-' :: digits => isDigits digits
  | digits => isDigits digits

/-- The end of a numeral after its digits: nothing, or an exponent. -/
def isScale : List Char → Bool
  | [] => true
  | mark :: power => (mark == 'e' || mark == 'E') && isExponent power

def isUnsigned (body : List Char) : Bool :=
  isWhole (body.takeWhile Char.isDigit) &&
    match body.dropWhile Char.isDigit with
    | '.' :: rest =>
      !(rest.takeWhile Char.isDigit).isEmpty && isScale (rest.dropWhile Char.isDigit)
    | rest => isScale rest

def numeral? : List Char → Option Json
  | '-' :: body =>
    if isWhole body ∧ body ≠ ['0'] then some (.integer (-(Nat.ofDigitChars 10 body 0 : Int)))
    else if isUnsigned body then some .nonInteger
    else none
  | body =>
    if isWhole body then some (.integer (Nat.ofDigitChars 10 body 0))
    else if isUnsigned body then some .nonInteger
    else none

/-- The lexeme in progress; what has been read of it is held in reverse. -/
inductive Lexeme where
  | none
  | word (letters : List Char)
  | numeral (chars : List Char)
  | literal (units : List TextUnit)
  | escape (units : List TextUnit)
  /-- Digits of an escaped unit: how many are missing and the value so far. -/
  | hex (units : List TextUnit) (missing : Nat) (value : Nat)

/-- The lexeme in progress and the tokens before it, in reverse. -/
structure Lexer where
  lexeme : Lexeme
  tokens : List Token

namespace Lexer

def start : Lexer := ⟨.none, []⟩

def emit (lexer : Lexer) (token : Token) : Lexer := ⟨.none, token :: lexer.tokens⟩

/-- Take a character that continues no lexeme. -/
def open? (lexer : Lexer) (c : Char) : Option Lexer :=
  if isBlank c then some lexer
  else if c = '[' then some (lexer.emit .openArray)
  else if c = ']' then some (lexer.emit .closeArray)
  else if c = '{' then some (lexer.emit .openObject)
  else if c = '}' then some (lexer.emit .closeObject)
  else if c = ',' then some (lexer.emit .comma)
  else if c = ':' then some (lexer.emit .colon)
  else if c = '"' then some { lexer with lexeme := .literal [] }
  else if c.isDigit || c == '-' then some { lexer with lexeme := .numeral [c] }
  else if c.isLower then some { lexer with lexeme := .word [c] }
  else none

/-- End a word or a numeral. A string literal does not end without its closing quote. -/
def close? (lexer : Lexer) : Option Lexer :=
  match lexer.lexeme with
  | .none => some lexer
  | .word letters => (word? letters.reverse).map fun value => lexer.emit (.scalar value)
  | .numeral chars => (numeral? chars.reverse).map fun value => lexer.emit (.scalar value)
  | _ => none

def step? (lexer : Lexer) (c : Char) : Option Lexer :=
  match lexer.lexeme with
  | .none => lexer.open? c
  | .word letters =>
    if c.isLower then some { lexer with lexeme := .word (c :: letters) }
    else lexer.close?.bind fun closed => closed.open? c
  | .numeral chars =>
    if isNumeralChar c then some { lexer with lexeme := .numeral (c :: chars) }
    else lexer.close?.bind fun closed => closed.open? c
  | .literal units =>
    if c = '"' then
      some (lexer.emit (.scalar (.string ((TextUnit.decode units.reverse).map String.ofList))))
    else if c = '\\' then some { lexer with lexeme := .escape units }
    else if c.toNat < 0x20 then none
    else some { lexer with lexeme := .literal (.char c :: units) }
  | .escape units =>
    if c = 'u' then some { lexer with lexeme := .hex units 4 0 }
    else (escapeChar? c).map fun value => { lexer with lexeme := .literal (.char value :: units) }
  | .hex units missing value =>
    (hexValue? c).map fun digit =>
      if missing ≤ 1 then { lexer with lexeme := .literal (.escaped (value * 16 + digit) :: units) }
      else { lexer with lexeme := .hex units (missing - 1) (value * 16 + digit) }

end Lexer

/-- The tokens of a text, unless it holds something that is no lexeme. -/
def tokens? (text : String) : Option (List Token) :=
  ((text.toList.foldlM Lexer.step? Lexer.start).bind Lexer.close?).map fun lexer =>
    lexer.tokens.reverse

end PacketFlow.Json
