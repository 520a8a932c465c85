import PacketFlow.Json.Printer
import PacketFlow.Json.Record

/-! Reading gives back every value that was printed.

A printed value is followed through the lexer and its tokens through the reader, with whatever
comes behind them. Numerals and words end only where the next character cannot belong to them, so
a value is followed by nothing or by a character that ends values inside containers.
-/

set_option autoImplicit false

namespace PacketFlow.Json

mutual

/-- The tokens of a printed value. -/
def tokens : Json → List Token
  | .array [] => [.openArray, .closeArray]
  | .array (item :: items) => .openArray :: tokens item ++ itemTokens items ++ [.closeArray]
  | .object [] => [.openObject, .closeObject]
  | .object ((name, value) :: members) =>
    .openObject :: .scalar (.string name) :: .colon :: tokens value ++ memberTokens members ++
      [.closeObject]
  | scalar => [.scalar scalar]

def itemTokens : List Json → List Token
  | [] => []
  | item :: items => .comma :: tokens item ++ itemTokens items

def memberTokens : List Member → List Token
  | [] => []
  | (name, value) :: members =>
    .comma :: .scalar (.string name) :: .colon :: tokens value ++ memberTokens members

end

/-! Numerals -/

theorem head?_toDigits {n : Nat} (leading : (Nat.toDigits 10 n).head? = some '0') : n = 0 := by
  induction n using Nat.strongRecOn with
  | ind n ih =>
    by_cases small : n < 10
    · rw [Nat.toDigits_of_lt_base small] at leading
      simpa using leading
    · obtain ⟨c, digits, first⟩ :=
        List.exists_cons_of_ne_nil (Nat.toDigits_ne_nil (n := n / 10) (b := 10))
      rw [Nat.toDigits_of_base_le (by decide) (Nat.le_of_not_lt small), first] at leading
      have zero := ih (n / 10) (by omega) (by rw [first]; exact leading)
      omega

theorem isDigit_toDigits {n : Nat} {c : Char} (member : c ∈ Nat.toDigits 10 n) :
    c.isDigit = true :=
  Nat.isDigit_of_mem_toDigits (by decide) (by decide) member

theorem isWhole_toDigits (n : Nat) : isWhole (Nat.toDigits 10 n) = true := by
  have digits : (Nat.toDigits 10 n).all Char.isDigit = true :=
    List.all_eq_true.mpr fun c => isDigit_toDigits
  have filled : (Nat.toDigits 10 n).isEmpty = false := by simp [Nat.toDigits_ne_nil]
  have leading : ((Nat.toDigits 10 n).head? != some '0' ||
      (Nat.toDigits 10 n).length == 1) = true := by
    by_cases zero : (Nat.toDigits 10 n).head? = some '0'
    · rw [head?_toDigits zero]
      rfl
    · simp [zero]
  simp [isWhole, isDigits, digits, filled, leading]

theorem numeral?_integerChars (value : Int) :
    numeral? (integerChars value) = some (.integer value) := by
  cases value with
  | ofNat n =>
    rw [integerChars, numeral?]
    · rw [if_pos (isWhole_toDigits n), Nat.ofDigitChars_toDigits (by decide) (by decide)]
      rfl
    · -- Digits do not begin with a sign.
      intro body same
      have digit : '-'.isDigit = true := isDigit_toDigits (same ▸ List.mem_cons_self)
      revert digit
      decide
  | negSucc n =>
    have positive : Nat.toDigits 10 (n + 1) ≠ ['0'] := by
      intro same
      have zero : n + 1 = 0 := head?_toDigits (by rw [same]; rfl)
      cases zero
    rw [integerChars, numeral?, if_pos ⟨isWhole_toDigits _, positive⟩,
      Nat.ofDigitChars_toDigits (by decide) (by decide)]
    rfl

theorem isNumeralChar_integerChars {value : Int} {c : Char} (member : c ∈ integerChars value) :
    isNumeralChar c = true := by
  cases value with
  | ofNat n => simp [isNumeralChar, isDigit_toDigits member]
  | negSucc n =>
    rcases List.mem_cons.mp member with rfl | digit
    · rfl
    · simp [isNumeralChar, isDigit_toDigits digit]

/-! Literals -/

/-- What the lexer takes an escaped character for. -/
def unit (c : Char) : TextUnit := if c.toNat < 0x20 then .escaped c.toNat else .char c

/-- An escaped unit below the surrogates is a character. -/
theorem decode_escaped {value : Nat} (low : value < 0xD800) (rest : List TextUnit) :
    TextUnit.decode (.escaped value :: rest) =
      (TextUnit.decode rest).map (Char.ofNat value :: ·) := by
  rw [TextUnit.decode.eq_def]
  dsimp only
  rw [if_neg (by omega), if_neg (by omega)]

theorem decode_units (cs : List Char) : TextUnit.decode (cs.map unit) = some cs := by
  induction cs with
  | nil => rfl
  | cons c cs ih =>
    rw [List.map_cons, unit]
    split
    next control =>
      rw [decode_escaped (by omega), ih, Char.ofNat_toNat]
      rfl
    next => rw [TextUnit.decode, ih]; rfl

theorem hexValue?_digitChar : ∀ n < 16, hexValue? (Nat.digitChar n) = some n := by decide

namespace Lexer

/-- What comes of a lexer that takes some characters and ends. -/
def run? (lexer : Lexer) (cs : List Char) : Option Lexer := (cs.foldlM step? lexer).bind close?

theorem run?_cons (lexer : Lexer) (c : Char) (cs : List Char) :
    lexer.run? (c :: cs) = (lexer.step? c).bind fun next => next.run? cs := by
  rw [run?, List.foldlM_cons]
  exact Option.bind_assoc ..

variable {tokens : List Token} {rest : List Char}

theorem step?_hex {c : Char} {digit : Nat} (known : hexValue? c = some digit)
    (units : List TextUnit) (missing value : Nat) :
    step? ⟨.hex units missing value, tokens⟩ c =
      some (if missing ≤ 1 then ⟨.literal (.escaped (value * 16 + digit) :: units), tokens⟩
        else ⟨.hex units (missing - 1) (value * 16 + digit), tokens⟩) := by
  simp only [step?, known, Option.map_some]

/-- The digits of a control character complete an escaped unit. -/
theorem run?_control {value : Nat} (below : value < 0x20) (units : List TextUnit) :
    run? ⟨.hex units 2 0, tokens⟩
        (Nat.digitChar (value / 16) :: Nat.digitChar (value % 16) :: rest) =
      run? ⟨.literal (.escaped value :: units), tokens⟩ rest := by
  have high := hexValue?_digitChar (value / 16) (by omega)
  have low := hexValue?_digitChar (value % 16) (by omega)
  have whole : (0 * 16 + value / 16) * 16 + value % 16 = value := by omega
  rw [run?_cons, step?_hex high, Option.bind_some, if_neg (by decide), run?_cons, step?_hex low,
    Option.bind_some, if_pos (by decide), whole]

theorem run?_escape (c : Char) (units : List TextUnit) :
    run? ⟨.literal units, tokens⟩ (escape c ++ rest) =
      run? ⟨.literal (unit c :: units), tokens⟩ rest := by
  by_cases quote : c = '"'
  · subst quote
    rfl
  · by_cases backslash : c = '\\'
    · subst backslash
      rfl
    · by_cases control : c.toNat < 0x20
      · rw [escape, if_neg quote, if_neg backslash, if_pos control, unit, if_pos control]
        exact run?_control control units
      · rw [escape, if_neg quote, if_neg backslash, if_neg control, unit, if_neg control]
        simp only [List.cons_append, List.nil_append, run?_cons, step?, quote, backslash, control,
          if_false, Option.bind_some]

theorem run?_escapes (text : List Char) (units : List TextUnit) :
    run? ⟨.literal units, tokens⟩ (text.flatMap escape ++ rest) =
      run? ⟨.literal ((text.map unit).reverse ++ units), tokens⟩ rest := by
  induction text generalizing units with
  | nil => rfl
  | cons c text ih =>
    rw [List.flatMap_cons, List.append_assoc, run?_escape, ih]
    simp

theorem run?_literal (text : Option String) :
    run? ⟨.none, tokens⟩ (literal text ++ rest) =
      run? ⟨.none, .scalar (.string text) :: tokens⟩ rest := by
  cases text with
  | none => rfl
  | some text =>
    have opened : run? ⟨.none, tokens⟩ (literal (some text) ++ rest) =
        run? ⟨.literal [], tokens⟩ (text.toList.flatMap escape ++ '"' :: rest) := by
      simp [literal, run?_cons, step?, open?, isBlank]
    have closed (units : List TextUnit) : run? ⟨.literal units, tokens⟩ ('"' :: rest) =
        run? ⟨.none, .scalar (.string ((TextUnit.decode units.reverse).map String.ofList)) ::
          tokens⟩ rest := rfl
    rw [opened, run?_escapes, closed]
    simp [decode_units]

theorem run?_name (name : Option String) :
    run? ⟨.none, tokens⟩ (literal name ++ ':' :: rest) =
      run? ⟨.none, .colon :: .scalar (.string name) :: tokens⟩ rest := by
  rw [run?_literal]
  rfl

/-! Words and numerals -/

/-- Nothing follows, or a character that ends a value inside a container. -/
def Delimited (rest : List Char) : Prop := ∀ c ∈ rest.head?, c = ',' ∨ c = ']' ∨ c = '}'

theorem run?_closed {lexer : Lexer} {value : Json} (delimited : Delimited rest)
    (closed : lexer.close? = some (lexer.emit (.scalar value)))
    (ends : ∀ c, c = ',' ∨ c = ']' ∨ c = '}' →
      lexer.step? c = lexer.close?.bind fun closed => closed.open? c) :
    lexer.run? rest = (lexer.emit (.scalar value)).run? rest := by
  cases rest with
  | nil => exact closed
  | cons c rest =>
    rw [run?_cons, ends c (delimited c rfl), closed, run?_cons]
    rfl

theorem run?_word {letters : List Char} {value : Json} (delimited : Delimited rest)
    (known : word? letters.reverse = some value) :
    run? ⟨.word letters, tokens⟩ rest = run? ⟨.none, .scalar value :: tokens⟩ rest := by
  apply run?_closed delimited
  · simp only [close?, known, Option.map_some]
  · rintro c (rfl | rfl | rfl) <;> rfl

theorem run?_numeral {chars : List Char} {value : Json} (delimited : Delimited rest)
    (known : numeral? chars.reverse = some value) :
    run? ⟨.numeral chars, tokens⟩ rest = run? ⟨.none, .scalar value :: tokens⟩ rest := by
  apply run?_closed delimited
  · simp only [close?, known, Option.map_some]
  · rintro c (rfl | rfl | rfl) <;> rfl

theorem run?_numeralChars {chars : List Char} (numeral : ∀ c ∈ chars, isNumeralChar c = true)
    (before : List Char) : run? ⟨.numeral before, tokens⟩ (chars ++ rest) =
      run? ⟨.numeral (chars.reverse ++ before), tokens⟩ rest := by
  induction chars generalizing before with
  | nil => rfl
  | cons c chars ih =>
    have first := numeral c List.mem_cons_self
    have later := ih fun other member => numeral other (List.mem_cons_of_mem _ member)
    simp only [List.cons_append, run?_cons, step?, first, if_true, Option.bind_some, later,
      List.reverse_cons, List.append_assoc, List.nil_append]

theorem open?_numeral {c : Char} (begins : (c.isDigit || c == '-') = true) :
    open? ⟨.none, tokens⟩ c = some ⟨.numeral [c], tokens⟩ := by
  have other (d : Char) (no : (d.isDigit || d == '-') = false) : c ≠ d := by
    rintro rfl
    rw [no] at begins
    cases begins
  have blank : isBlank c = false := by
    simp [isBlank, other ' ' rfl, other '\t' rfl, other '\n' rfl, other '\r' rfl]
  simp only [open?, blank, Bool.false_eq_true, other '[' rfl, other ']' rfl, other '\x7b' rfl,
    other '\x7d' rfl, other ',' rfl, other ':' rfl, other '"' rfl, begins, if_false, if_true]

theorem run?_integer (value : Int) (delimited : Delimited rest) :
    run? ⟨.none, tokens⟩ (integerChars value ++ rest) =
      run? ⟨.none, .scalar (.integer value) :: tokens⟩ rest := by
  have known := numeral?_integerChars value
  have numeral (c : Char) : c ∈ integerChars value → isNumeralChar c = true :=
    isNumeralChar_integerChars
  obtain ⟨c, chars, parts, begins⟩ : ∃ c chars, integerChars value = c :: chars ∧
      (c.isDigit || c == '-') = true := by
    cases value with
    | negSucc n => exact ⟨'-', _, rfl, rfl⟩
    | ofNat n =>
      obtain ⟨c, digits, parts⟩ :=
        List.exists_cons_of_ne_nil (Nat.toDigits_ne_nil (n := n) (b := 10))
      have digit := isDigit_toDigits (parts ▸ List.mem_cons_self)
      exact ⟨c, digits, parts, by rw [digit]; rfl⟩
  rw [parts] at known numeral ⊢
  have opened : step? ⟨.none, tokens⟩ c = some ⟨.numeral [c], tokens⟩ := open?_numeral begins
  rw [List.cons_append, run?_cons, opened, Option.bind_some,
    run?_numeralChars fun other member => numeral other (List.mem_cons_of_mem _ member)]
  exact run?_numeral delimited (by simpa using known)

end Lexer

section lexing

open Lexer

theorem delimited_items (items : List Json) (rest : List Char) :
    Delimited (itemChars items ++ ']' :: rest) := by
  cases items <;> simp [Delimited, itemChars]

theorem delimited_members (members : List Member) (rest : List Char) :
    Delimited (memberChars members ++ '\x7d' :: rest) := by
  cases members <;> simp [Delimited, memberChars]

mutual

/-- A printed value is read as its tokens, whatever ends it. -/
theorem run?_chars : ∀ (value : Json) (found : List Token) (rest : List Char), Delimited rest →
    run? ⟨.none, found⟩ (chars value ++ rest) = run? ⟨.none, (tokens value).reverse ++ found⟩ rest
  | .null, found, rest, delimited => run?_word delimited rfl
  | .bool true, found, rest, delimited => run?_word delimited rfl
  | .bool false, found, rest, delimited => run?_word delimited rfl
  | .integer value, found, rest, delimited => run?_integer value delimited
  | .nonInteger, found, rest, delimited => run?_numeral delimited rfl
  | .string text, found, rest, delimited => run?_literal text
  | .array [], found, rest, delimited => rfl
  | .array (item :: items), found, rest, delimited => by
    have first := run?_chars item (.openArray :: found) (itemChars items ++ ']' :: rest)
      (delimited_items items rest)
    have others := run?_itemChars items ((tokens item).reverse ++ .openArray :: found) rest
    calc
      run? ⟨.none, found⟩ (chars (.array (item :: items)) ++ rest) =
          run? ⟨.none, .openArray :: found⟩ (chars item ++ (itemChars items ++ ']' :: rest)) := by
        simp only [chars, List.cons_append, List.append_assoc, List.nil_append]
        rfl
      _ = _ := by
        rw [first, others]
        simp [tokens]
  | .object [], found, rest, delimited => rfl
  | .object ((name, value) :: members), found, rest, delimited => by
    have first := run?_chars value (.colon :: .scalar (.string name) :: .openObject :: found)
      (memberChars members ++ '\x7d' :: rest) (delimited_members members rest)
    have others := run?_memberChars members
      ((tokens value).reverse ++ .colon :: .scalar (.string name) :: .openObject :: found) rest
    calc
      run? ⟨.none, found⟩ (chars (.object ((name, value) :: members)) ++ rest) =
          run? ⟨.none, .openObject :: found⟩
            (literal name ++ ':' :: (chars value ++ (memberChars members ++ '\x7d' :: rest))) := by
        simp only [chars, List.cons_append, List.append_assoc, List.nil_append]
        rfl
      _ = _ := by
        rw [run?_name, first, others]
        simp [tokens]

theorem run?_itemChars : ∀ (items : List Json) (found : List Token) (rest : List Char),
    run? ⟨.none, found⟩ (itemChars items ++ ']' :: rest) =
      run? ⟨.none, .closeArray :: (itemTokens items).reverse ++ found⟩ rest
  | [], found, rest => rfl
  | item :: items, found, rest => by
    have first := run?_chars item (.comma :: found) (itemChars items ++ ']' :: rest)
      (delimited_items items rest)
    have others := run?_itemChars items ((tokens item).reverse ++ .comma :: found) rest
    calc
      run? ⟨.none, found⟩ (itemChars (item :: items) ++ ']' :: rest) =
          run? ⟨.none, .comma :: found⟩ (chars item ++ (itemChars items ++ ']' :: rest)) := by
        simp only [itemChars, List.cons_append, List.append_assoc]
        rfl
      _ = _ := by
        rw [first, others]
        simp [itemTokens]

theorem run?_memberChars : ∀ (members : List Member) (found : List Token) (rest : List Char),
    run? ⟨.none, found⟩ (memberChars members ++ '\x7d' :: rest) =
      run? ⟨.none, .closeObject :: (memberTokens members).reverse ++ found⟩ rest
  | [], found, rest => rfl
  | (name, value) :: members, found, rest => by
    have first := run?_chars value (.colon :: .scalar (.string name) :: .comma :: found)
      (memberChars members ++ '\x7d' :: rest) (delimited_members members rest)
    have others := run?_memberChars members
      ((tokens value).reverse ++ .colon :: .scalar (.string name) :: .comma :: found) rest
    calc
      run? ⟨.none, found⟩ (memberChars ((name, value) :: members) ++ '\x7d' :: rest) =
          run? ⟨.none, .comma :: found⟩
            (literal name ++ ':' :: (chars value ++ (memberChars members ++ '\x7d' :: rest))) := by
        simp only [memberChars, List.cons_append, List.append_assoc]
        rfl
      _ = _ := by
        rw [run?_name, first, others]
        simp [memberTokens]

end

theorem tokens?_render (value : Json) : tokens? value.render = some (tokens value) := by
  have read := run?_chars value [] [] (by simp [Delimited])
  rw [List.append_nil, List.append_nil] at read
  have started : tokens? value.render = (start.run? value.chars).map (·.tokens.reverse) := by
    rw [tokens?, render, String.toList_ofList]
    rfl
  rw [started, start, read]
  simp [run?, close?]

end lexing

namespace Reader

/-- What comes of a reader that takes some tokens. -/
def run? (reader : Reader) (tokens : List Token) : Option Reader := tokens.foldlM step? reader

theorem run?_append (reader : Reader) (first second : List Token) :
    reader.run? (first ++ second) = (reader.run? first).bind fun next => next.run? second :=
  List.foldlM_append

/-- The value that follows the opening of an array is read like any other. -/
theorem run?_atFirstItem (item : Json) (stack : List Container) :
    run? (.atFirstItem stack) item.tokens = run? (.atValue (.array [] :: stack)) item.tokens := by
  cases item with
  | array items => cases items <;> rfl
  | object members => cases members <;> rfl
  | _ => rfl

mutual

/-- The tokens of a value are read as that value, wherever it stands. -/
theorem run?_tokens : ∀ (value : Json) (stack : List Container),
    run? (.atValue stack) value.tokens = some (.after value stack)
  | .null, stack | .bool _, stack | .integer _, stack | .nonInteger, stack | .string _, stack
  | .array [], stack | .object [], stack => rfl
  | .array (item :: items), stack => by
    have first := run?_tokens item (.array [] :: stack)
    have others := run?_itemTokens items item [] stack
    calc
      run? (.atValue stack) (Json.array (item :: items)).tokens =
          run? (.atFirstItem stack) (item.tokens ++ (itemTokens items ++ [.closeArray])) := by
        simp only [Json.tokens, List.cons_append, List.append_assoc]
        rfl
      _ = some (.after (.array (item :: items)) stack) := by
        rw [run?_append, run?_atFirstItem, first]
        exact others
  | .object ((name, value) :: members), stack => by
    have first := run?_tokens value (.object [] name :: stack)
    have others := run?_memberTokens members value name [] stack
    calc
      run? (.atValue stack) (Json.object ((name, value) :: members)).tokens =
          run? (.atValue (.object [] name :: stack))
            (value.tokens ++ (memberTokens members ++ [.closeObject])) := by
        simp only [Json.tokens, List.cons_append, List.append_assoc]
        rfl
      _ = some (.after (.object ((name, value) :: members)) stack) := by
        rw [run?_append, first]
        exact others

theorem run?_itemTokens : ∀ (items : List Json) (item : Json) (done : List Json)
    (stack : List Container),
    run? (.after item (.array done :: stack)) (itemTokens items ++ [.closeArray]) =
      some (.after (.array (done.reverse ++ item :: items)) stack)
  | [], item, done, stack => by
    rw [← List.reverse_cons]
    rfl
  | next :: items, item, done, stack => by
    have first := run?_tokens next (.array (item :: done) :: stack)
    have others := run?_itemTokens items next (item :: done) stack
    calc
      run? (.after item (.array done :: stack)) (itemTokens (next :: items) ++ [.closeArray]) =
          run? (.atValue (.array (item :: done) :: stack))
            (next.tokens ++ (itemTokens items ++ [.closeArray])) := by
        simp only [itemTokens, List.cons_append, List.append_assoc]
        rfl
      _ = _ := by
        rw [run?_append, first, Option.bind_some, others]
        simp

theorem run?_memberTokens : ∀ (members : List Member) (value : Json) (name : Option String)
    (done : List Member) (stack : List Container),
    run? (.after value (.object done name :: stack)) (memberTokens members ++ [.closeObject]) =
      some (.after (.object (done.reverse ++ (name, value) :: members)) stack)
  | [], value, name, done, stack => by
    rw [← List.reverse_cons]
    rfl
  | (following, next) :: members, value, name, done, stack => by
    have first := run?_tokens next (.object ((name, value) :: done) following :: stack)
    have others := run?_memberTokens members next following ((name, value) :: done) stack
    calc
      run? (.after value (.object done name :: stack))
          (memberTokens ((following, next) :: members) ++ [.closeObject]) =
          run? (.atValue (.object ((name, value) :: done) following :: stack))
            (next.tokens ++ (memberTokens members ++ [.closeObject])) := by
        simp only [memberTokens, List.cons_append, List.append_assoc]
        rfl
      _ = _ := by
        rw [run?_append, first, Option.bind_some, others]
        simp

end

end Reader

/-- Every value is read back from its text. -/
theorem parse?_render (value : Json) : parse? value.render = some value := by
  have read : (value.tokens.foldlM Reader.step? (.atValue [])) = some (.after value []) :=
    Reader.run?_tokens value []
  rw [parse?, tokens?_render, Option.bind_some, ofTokens?, read]
  rfl

/-! Records -/

theorem ofText_render {α : Type} (read : Json → Except DecodeError α) (value : Json) :
    ofText read value.render = read value := by
  rw [ofText, parse?_render]

end PacketFlow.Json
