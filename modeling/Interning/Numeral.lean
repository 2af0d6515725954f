import Interning.Text
/-!
Numerals: the decimal and hexadecimal texts of a number, and reading an unsigned 64-bit number
back. `word?_decimal` says that the decimal numeral of a word reads back as that word.
-/

set_option autoImplicit false
set_option relaxedAutoImplicit false

namespace Interning.Numeral

/-- The decimal numeral of a number. -/
def decimal (n : Nat) : Text :=
  Nat.toDigits 10 n

/-- The hexadecimal numeral of a number, with small letters. -/
def hexadecimal (n : Nat) : Text :=
  Nat.toDigits 16 n

/-- The digit of a number below sixteen, with capital letters. -/
def capitalHexDigit (n : Nat) : Char :=
  if n < 10 then Char.ofNat (48 + n) else Char.ofNat (55 + n)

/-- The last four hexadecimal digits of a number, with capital letters. -/
def fourHexDigits (n : Nat) : Text :=
  [capitalHexDigit (n / 4096 % 16), capitalHexDigit (n / 256 % 16),
    capitalHexDigit (n / 16 % 16), capitalHexDigit (n % 16)]

/-- The value of a hexadecimal digit, small or capital. -/
def hexValue? (c : Char) : Option Nat :=
  if c.isDigit then some (c.toNat - 48)
  else if 'a' ≤ c && c ≤ 'f' then some (c.toNat - 87)
  else if 'A' ≤ c && c ≤ 'F' then some (c.toNat - 55)
  else none

/-- The number that a run of decimal digits writes; a run has at least one digit. -/
def digits? (text : Text) : Option Nat :=
  if !text.isEmpty && text.all Char.isDigit then some (Nat.ofDigitChars 10 text 0) else none

/-- The unsigned 64-bit number that a text writes: decimal digits after an optional plus sign,
below `2 ^ 64`. -/
def word? (text : Text) : Option UInt64 :=
  match digits? (text.skip '+') with
  | some n => if n < UInt64.size then some (UInt64.ofNat n) else none
  | none => none

theorem decimal_ne_nil (n : Nat) : decimal n ≠ [] :=
  Nat.toDigits_ne_nil

theorem isDigit_of_mem_decimal {n : Nat} {c : Char} (h : c ∈ decimal n) : c.isDigit = true :=
  Nat.isDigit_of_mem_toDigits (by decide) (by decide) h

/-- A number is read back from its decimal numeral. -/
theorem digits?_decimal (n : Nat) : digits? (decimal n) = some n := by
  have hdigits : (decimal n).all Char.isDigit = true :=
    List.all_eq_true.mpr fun _ h ↦ isDigit_of_mem_decimal h
  have hvalue : Nat.ofDigitChars 10 (decimal n) 0 = n := Nat.ofDigitChars_ten_toDigits
  simp [digits?, hdigits, hvalue, decimal_ne_nil]

/-- A word is read back from its decimal numeral. -/
theorem word?_decimal (n : UInt64) : word? (decimal n.toNat) = some n := by
  have hskip : (decimal n.toNat).skip '+' = decimal n.toNat := by
    match h : decimal n.toNat with
    | [] => rfl
    | c :: _ =>
      have hdigit : c.isDigit = true := isDigit_of_mem_decimal (h ▸ List.mem_cons_self)
      have hne : c ≠ '+' := fun heq ↦ by subst heq; exact absurd hdigit (by decide)
      simp [Text.skip, hne]
  simp [word?, hskip, digits?_decimal, n.toNat_lt]

end Interning.Numeral
