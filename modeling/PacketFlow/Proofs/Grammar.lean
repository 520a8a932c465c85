import Mathlib.Data.List.Induction
import PacketFlow.Version

/-! The texts that stand for releases.

The grammar of a release is given by how its texts are built up, without a reader: digits one after
the other, one sign at most before them, one to three components with dots between them, and blanks
around all that. Reading accepts exactly these texts and finds the release they were built for.
-/

set_option autoImplicit false

namespace PacketFlow

namespace Text

/-- The rest of a text when all blanks at both ends are taken off. -/
structure Stripped (cs body : List Char) : Prop where
  parts : ∃ before after, cs = before ++ body ++ after ∧
    (∀ c ∈ before, isBlank c = true) ∧ ∀ c ∈ after, isBlank c = true
  first : ∀ c ∈ body.head?, isBlank c = false
  last : ∀ c ∈ body.getLast?, isBlank c = false

variable {cs before after : List Char}

theorem dropWhile_eq_self (first : ∀ c ∈ cs.head?, isBlank c = false) :
    cs.dropWhile isBlank = cs := by
  cases cs with
  | nil => rfl
  | cons c rest => rw [List.dropWhile_cons_of_neg (by simp [first c rfl])]

theorem trim_eq_self (first : ∀ c ∈ cs.head?, isBlank c = false)
    (last : ∀ c ∈ cs.getLast?, isBlank c = false) : trim cs = cs := by
  rw [trim, dropWhile_eq_self first, dropWhile_eq_self (by simpa using last), List.reverse_reverse]

/-- Blanks around a text do not count. -/
theorem trim_append (blank : ∀ c ∈ before, isBlank c = true)
    (blank' : ∀ c ∈ after, isBlank c = true) : trim (before ++ cs ++ after) = trim cs := by
  have nothing : after.dropWhile isBlank = [] := by
    rw [← List.append_nil after, List.dropWhile_append_of_pos blank', List.dropWhile_nil]
  rw [trim, trim, List.append_assoc, List.dropWhile_append_of_pos blank, List.dropWhile_append]
  split
  next empty => simp [nothing, List.isEmpty_iff.mp empty]
  next =>
    rw [List.reverse_append, List.dropWhile_append_of_pos (by simpa using blank')]

theorem isBlank_of_mem_takeWhile {c : Char} (member : c ∈ cs.takeWhile isBlank) :
    isBlank c = true :=
  List.all_eq_true.mp List.all_takeWhile c member

theorem isBlank_of_head?_dropWhile {c : Char} (first : c ∈ (cs.dropWhile isBlank).head?) :
    isBlank c = false := by
  have fails := List.head?_dropWhile_not isBlank cs
  rw [Option.mem_def.mp first] at fails
  exact fails

theorem trim_stripped (cs : List Char) : Stripped cs (trim cs) := by
  have front := List.takeWhile_append_dropWhile (p := isBlank) (l := cs)
  -- What is taken off the end is found at the front of the reversed rest.
  have back : cs.dropWhile isBlank =
      trim cs ++ ((cs.dropWhile isBlank).reverse.takeWhile isBlank).reverse := by
    rw [trim, ← List.reverse_append, List.takeWhile_append_dropWhile, List.reverse_reverse]
  constructor
  case parts =>
    refine ⟨cs.takeWhile isBlank, ((cs.dropWhile isBlank).reverse.takeWhile isBlank).reverse,
      ?_, fun c => isBlank_of_mem_takeWhile, fun c member => ?_⟩
    · rw [List.append_assoc, ← back, front]
    · exact isBlank_of_mem_takeWhile (List.mem_reverse.mp member)
  case first =>
    intro c first
    have front : c ∈ (cs.dropWhile isBlank).head? := by
      rw [back, List.head?_append, Option.mem_def.mp first]
      rfl
    exact isBlank_of_head?_dropWhile front
  case last =>
    intro c last
    rw [trim, List.getLast?_reverse] at last
    exact isBlank_of_head?_dropWhile last

theorem stripped_iff {body : List Char} : Stripped cs body ↔ trim cs = body := by
  constructor
  · rintro ⟨⟨before, after, rfl, blank, blank'⟩, first, last⟩
    rw [trim_append blank blank', trim_eq_self first last]
  · rintro rfl
    exact trim_stripped cs

end Text

namespace Version

/-- One digit or more, and the number they stand for. -/
inductive Digits : List Char → Nat → Prop where
  | digit {d : Nat} (small : d < 10) : Digits [Nat.digitChar d] d
  | append {cs : List Char} {n d : Nat} (digits : Digits cs n) (small : d < 10) :
    Digits (cs ++ [Nat.digitChar d]) (10 * n + d)

/-- A way to write a component. There may be any number of zeros in front. -/
inductive Component (n : UInt32) : List Char → Prop where
  | plain {cs : List Char} (digits : Digits cs n.toNat) : Component n cs
  | signed {cs : List Char} (digits : Digits cs n.toNat) : Component n ('+' :: cs)

/-- The ways to write the components of a release. Those left out are zero. -/
inductive Parts : Version → List (List Char) → Prop where
  | one {major : UInt32} {cs : List Char} (first : Component major cs) :
    Parts ⟨major, 0, 0⟩ [cs]
  | two {major minor : UInt32} {cs cs' : List Char} (first : Component major cs)
    (second : Component minor cs') : Parts ⟨major, minor, 0⟩ [cs, cs']
  | three {major minor patch : UInt32} {cs cs' cs'' : List Char} (first : Component major cs)
    (second : Component minor cs') (third : Component patch cs'') :
    Parts ⟨major, minor, patch⟩ [cs, cs', cs'']

/-- A text stands for a release. -/
def Written (v : Version) (text : String) : Prop :=
  ∃ parts, Parts v parts ∧ Text.Stripped text.toList (List.intercalate ['.'] parts)

theorem exists_digitChar {c : Char} (digit : c.isDigit = true) :
    ∃ d < 10, c = Nat.digitChar d ∧ c.toNat - '0'.toNat = d := by
  have range : 48 ≤ c.toNat ∧ c.toNat ≤ 57 := Char.isDigit_iff_toNat.mp digit
  refine ⟨c.toNat - 48, by omega, ?_, rfl⟩
  apply Char.toNat_inj.mp
  rw [Nat.toNat_digitChar_of_lt_ten (by omega)]
  omega

theorem digits_iff {cs : List Char} {n : Nat} :
    Digits cs n ↔ cs ≠ [] ∧ cs.all Char.isDigit = true ∧ Nat.ofDigitChars 10 cs 0 = n := by
  constructor
  · intro digits
    induction digits with
    | digit small =>
      simp [Nat.isDigit_digitChar, Nat.ofDigitChars_cons, Nat.toNat_digitChar_of_lt_ten, small]
    | append digits small ih =>
      obtain ⟨filled, decimal, value⟩ := ih
      simp [Nat.isDigit_digitChar, Nat.ofDigitChars_append, Nat.ofDigitChars_cons,
        Nat.toNat_digitChar_of_lt_ten, small, decimal, value]
  · rintro ⟨filled, decimal, rfl⟩
    induction cs using List.reverseRecOn with
    | nil => exact absurd rfl filled
    | append_singleton cs c ih =>
      rw [List.all_append, Bool.and_eq_true, List.all_cons, List.all_nil, Bool.and_true] at decimal
      obtain ⟨d, small, rfl, value⟩ := exists_digitChar decimal.2
      rw [Nat.ofDigitChars_append, Nat.ofDigitChars_cons, value]
      rcases List.eq_nil_or_concat cs with rfl | ⟨earlier, last, rfl⟩
      · simpa [Nat.ofDigitChars] using Digits.digit small
      · exact .append (ih (by simp) decimal.1) small

theorem not_digits_signed {cs : List Char} {n : Nat} : ¬Digits ('+' :: cs) n := by
  rw [digits_iff, List.all_cons]
  rintro ⟨-, decimal, -⟩
  revert decimal
  simp [Char.isDigit]

/-- Digits are taken for the number that they stand for, if a word holds it. -/
theorem number_iff {digits : List Char} {n : UInt32} :
    (if digits ≠ [] ∧ digits.all Char.isDigit ∧ Nat.ofDigitChars 10 digits 0 < UInt32.size then
        some (UInt32.ofNat (Nat.ofDigitChars 10 digits 0))
      else none) = some n ↔ Digits digits n.toNat := by
  have bound := n.toNat_lt
  rw [digits_iff]
  split
  next fits =>
    obtain ⟨filled, decimal, small⟩ := fits
    simp only [Option.some.injEq, ← UInt32.toNat_inj, UInt32.toNat_ofNat']
    rw [Nat.mod_eq_of_lt small]
    simp [filled, decimal]
  next refused =>
    simp only [reduceCtorEq, false_iff]
    rintro ⟨filled, decimal, value⟩
    exact refused ⟨filled, decimal, value ▸ bound⟩

theorem component?_eq_some_iff {cs : List Char} {n : UInt32} :
    component? cs = some n ↔ Component n cs := by
  by_cases signed : ∃ rest, cs = '+' :: rest
  · obtain ⟨rest, rfl⟩ := signed
    refine Iff.trans number_iff ⟨.signed, ?_⟩
    rintro (digits | digits)
    · exact absurd digits not_digits_signed
    · exact digits
  · rw [component?]
    · refine Iff.trans number_iff ⟨.plain, ?_⟩
      rintro (digits | digits)
      · exact digits
      · exact absurd ⟨_, rfl⟩ signed
    · exact fun rest same => signed ⟨rest, same⟩

/-- A component has no characters but digits and a sign. -/
theorem Component.chars {cs : List Char} {n : UInt32} (component : Component n cs) {c : Char}
    (member : c ∈ cs) : c.isDigit = true ∨ c = '+' := by
  cases component with
  | plain digits => exact .inl (List.all_eq_true.mp (digits_iff.mp digits).2.1 c member)
  | signed digits =>
    rcases List.mem_cons.mp member with rfl | later
    · exact .inr rfl
    · exact .inl (List.all_eq_true.mp (digits_iff.mp digits).2.1 c later)

theorem Component.no_dot {cs : List Char} {n : UInt32} (component : Component n cs) : '.' ∉ cs := by
  intro member
  rcases component.chars member with digit | sign
  · revert digit
    decide
  · revert sign
    decide

theorem Component.visible {cs : List Char} {n : UInt32} (component : Component n cs) {c : Char}
    (member : c ∈ cs) : Text.isBlank c = false := by
  rcases component.chars member with digit | rfl
  · have range : 48 ≤ c.toNat ∧ c.toNat ≤ 57 := Char.isDigit_iff_toNat.mp digit
    simp [Text.isBlank, Text.blankRanges]
    omega
  · decide

namespace Parts

variable {v : Version} {parts : List (List Char)}

theorem components (written : Parts v parts) : ∀ cs ∈ parts, ∃ n, Component n cs := by
  cases written with
  | one first => simpa using ⟨_, first⟩
  | two first second => simpa using ⟨⟨_, first⟩, ⟨_, second⟩⟩
  | three first second third => simpa using ⟨⟨_, first⟩, ⟨_, second⟩, ⟨_, third⟩⟩

theorem ne_nil (written : Parts v parts) : parts ≠ [] := by
  cases written <;> simp

/-- The dots of a release are those between its components. -/
theorem splitOn_intercalate (written : Parts v parts) :
    (List.intercalate ['.'] parts).splitOn '.' = parts := by
  apply List.splitOn_intercalate
  · intro cs member
    obtain ⟨n, component⟩ := written.components cs member
    exact component.no_dot
  · exact written.ne_nil

/-- No character of a release is a blank. -/
theorem visible (written : Parts v parts) : ∀ c ∈ List.intercalate ['.'] parts,
    Text.isBlank c = false := by
  have dot : Text.isBlank '.' = false := by decide
  intro c member
  cases written with
  | one first => exact first.visible (by simpa using member)
  | @two _ _ cs cs' first second =>
    obtain inside | rfl | inside : c ∈ cs ∨ c = '.' ∨ c ∈ cs' := by
      simpa [List.intercalate] using member
    · exact first.visible inside
    · exact dot
    · exact second.visible inside
  | @three _ _ _ cs cs' cs'' first second third =>
    obtain inside | rfl | inside | rfl | inside :
        c ∈ cs ∨ c = '.' ∨ c ∈ cs' ∨ c = '.' ∨ c ∈ cs'' := by
      simpa [List.intercalate] using member
    · exact first.visible inside
    · exact dot
    · exact second.visible inside
    · exact dot
    · exact third.visible inside

end Parts

theorem parts_iff {v : Version} {parts : List (List Char)} :
    (match parts with
      | [major] => return ⟨← component? major, 0, 0⟩
      | [major, minor] => return ⟨← component? major, ← component? minor, 0⟩
      | [major, minor, patch] =>
        return ⟨← component? major, ← component? minor, ← component? patch⟩
      | _ => none) = some v ↔ Parts v parts := by
  constructor
  · simp only [Option.pure_def, Option.bind_eq_bind]
    split
    · simp only [Option.bind_eq_some_iff, Option.some.injEq, component?_eq_some_iff]
      rintro ⟨major, first, rfl⟩
      exact .one first
    · simp only [Option.bind_eq_some_iff, Option.some.injEq, component?_eq_some_iff]
      rintro ⟨major, first, minor, second, rfl⟩
      exact .two first second
    · simp only [Option.bind_eq_some_iff, Option.some.injEq, component?_eq_some_iff]
      rintro ⟨major, first, minor, second, patch, third, rfl⟩
      exact .three first second third
    · exact nofun
  · intro written
    cases written with
    | one first => simp [component?_eq_some_iff.mpr first]
    | two first second =>
      simp [component?_eq_some_iff.mpr first, component?_eq_some_iff.mpr second]
    | three first second third =>
      simp [component?_eq_some_iff.mpr first, component?_eq_some_iff.mpr second,
        component?_eq_some_iff.mpr third]

theorem parse?_eq_some_iff {text : String} {v : Version} :
    parse? text = some v ↔ Written v text := by
  refine Iff.trans parts_iff ⟨fun written => ?_, ?_⟩
  · refine ⟨_, written, Text.stripped_iff.mpr ?_⟩
    rw [List.intercalate_splitOn]
  · rintro ⟨parts, written, stripped⟩
    rw [Text.stripped_iff.mp stripped, written.splitOn_intercalate]
    exact written

theorem digits_toDigits (n : Nat) : Digits (Nat.toDigits 10 n) n := by
  rw [digits_iff]
  refine ⟨Nat.toDigits_ne_nil, ?_, Nat.ofDigitChars_toDigits (by decide) (by decide)⟩
  exact List.all_eq_true.mpr fun c => Nat.isDigit_of_mem_toDigits (by decide) (by decide)

/-- What is shown of a release stands for it. -/
theorem written_display (v : Version) : Written v v.display := by
  have written : Parts v [Nat.toDigits 10 v.major.toNat, Nat.toDigits 10 v.minor.toNat,
      Nat.toDigits 10 v.patch.toNat] :=
    .three (.plain (digits_toDigits _)) (.plain (digits_toDigits _)) (.plain (digits_toDigits _))
  have shown : v.display.toList = List.intercalate ['.'] [Nat.toDigits 10 v.major.toNat,
      Nat.toDigits 10 v.minor.toNat, Nat.toDigits 10 v.patch.toNat] := by
    simp [display, Nat.repr, toString, List.intercalate]
  refine ⟨_, written, ?_⟩
  rw [shown, Text.stripped_iff]
  apply Text.trim_eq_self
  · exact fun c first => written.visible c (List.mem_of_mem_head? first)
  · exact fun c last => written.visible c (List.mem_of_mem_getLast? last)

/-- Which texts are releases, and which releases they are. -/
structure Legible : Prop where
  /-- A text is read as the release it is written for. -/
  grammar : ∀ text v, parse? text = some v ↔ Written v text
  /-- Every other text is refused. -/
  refused : ∀ text, parse? text = none ↔ ∀ v, ¬Written v text
  /-- What is shown of a release is read as that release. -/
  displayed : ∀ v, parse? v.display = some v
  /-- Blanks around a text do not matter, be it a release or not. -/
  padded : ∀ before text after : String, (∀ c ∈ before.toList, Text.isBlank c = true) →
    (∀ c ∈ after.toList, Text.isBlank c = true) → parse? (before ++ text ++ after) = parse? text
  /-- A release that has been read survives being shown and read again. -/
  again : ∀ text v, parse? text = some v → parse? v.display = some v

theorem legible : Legible where
  grammar text v := parse?_eq_some_iff
  refused text := by
    simp only [Option.eq_none_iff_forall_ne_some, Ne, parse?_eq_some_iff]
  displayed v := parse?_eq_some_iff.mpr (written_display v)
  padded before text after blank blank' := by
    rw [parse?, String.toList_append, String.toList_append, Text.trim_append blank blank', parse?]
  again text v _ := parse?_eq_some_iff.mpr (written_display v)

example : parse? " +1.08 " = some ⟨1, 8, 0⟩ := by decide

end Version

end PacketFlow
