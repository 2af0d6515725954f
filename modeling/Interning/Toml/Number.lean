import Interning.Numeral
/-!
Integers and floats of a TOML document. Integers are written in four bases and floats in decimal,
with single underscores between digits where wanted. `integer?` reads an integer of any size and
`isSignedWord` says which fit. `isFloat` says which words are floats; a decimal that rounds to
positive infinity as a double is none.
-/

set_option autoImplicit false
set_option relaxedAutoImplicit false

namespace Interning.Toml

/-! ### Digits -/

/-- The digits of a run in which single underscores may stand between digits. -/
def digitRun (isDigit : Char → Bool) : Text → Option Text
  | [] => none
  | [c] => if isDigit c then some [c] else none
  | c :: '_' :: rest => if isDigit c then (digitRun isDigit rest).map (c :: ·) else none
  | c :: rest => if isDigit c then (digitRun isDigit rest).map (c :: ·) else none

/-- The digits of a decimal numeral, which begins with a zero only when it is zero. -/
def decimalRun (text : Text) : Option Text :=
  match digitRun Char.isDigit text with
  | some ('0' :: _ :: _) => none
  | digits => digits

/-- Whether a numeral of the given base has this character among its digits. -/
def isDigitOf (base : Nat) (c : Char) : Bool :=
  (Numeral.hexValue? c).any (· < base)

/-- The value of digits in a base. -/
def valueOf (base : Nat) (digits : Text) : Nat :=
  digits.foldl (fun value c ↦ value * base + (Numeral.hexValue? c).getD 0) 0

/-! ### Integers -/

/-- The integer that a word writes. -/
def integer? : Text → Option Int
  | '0' :: 'x' :: rest => (digitRun (isDigitOf 16) rest).map fun digits ↦ valueOf 16 digits
  | '0' :: 'o' :: rest => (digitRun (isDigitOf 8) rest).map fun digits ↦ valueOf 8 digits
  | '0' :: 'b' :: rest => (digitRun (isDigitOf 2) rest).map fun digits ↦ valueOf 2 digits
  | '+' :: rest => (decimalRun rest).map fun digits ↦ valueOf 10 digits
  | '-' :: rest => (decimalRun rest).map fun digits ↦ -(valueOf 10 digits : Int)
  | text => (decimalRun text).map fun digits ↦ valueOf 10 digits

/-- Whether an integer fits in a signed 64-bit word. -/
def isSignedWord (n : Int) : Bool :=
  -(Nat.pow 2 63) ≤ n && n < Nat.pow 2 63

/-! ### Floats -/

/-- A decimal number: the digits times the power of ten. -/
structure Decimal where
  digits : Text
  exponent : Int

namespace Decimal

/-- The least number that rounds to infinity as a double: half a unit in the last place above
the largest finite one. -/
def doubleLimit : Nat :=
  Nat.pow 2 1024 - Nat.pow 2 970

/-- Whether the number rounds to infinity as a double. Its digits without leading zeros tell its
magnitude; the limit has 309 digits, so only a number of that magnitude needs a comparison. -/
def roundsToInfinity (number : Decimal) : Bool :=
  let digits := number.digits.dropWhile (· == '0')
  let places := digits.length
  let magnitude := places + number.exponent
  !digits.isEmpty &&
    (309 < magnitude ||
      magnitude == 309 &&
        decide (doubleLimit * Nat.pow 10 (places - 309) ≤
          valueOf 10 digits * Nat.pow 10 (309 - places)))

end Decimal

/-- Whether a character begins an exponent. -/
def isExponentMark (c : Char) : Bool :=
  c == 'e' || c == 'E'

/-- The digits of a fraction, which begins with its point. -/
def fraction? : Text → Option Text
  | [] => some []
  | _ :: digits => digitRun Char.isDigit digits

/-- The value of an exponent, which begins with its mark. -/
def exponent? : Text → Option Int
  | [] => some 0
  | _ :: '+' :: digits => (digitRun Char.isDigit digits).map fun digits ↦ valueOf 10 digits
  | _ :: '-' :: digits => (digitRun Char.isDigit digits).map fun digits ↦ -(valueOf 10 digits : Int)
  | _ :: digits => (digitRun Char.isDigit digits).map fun digits ↦ valueOf 10 digits

/-- The number that an unsigned decimal numeral with a fraction, an exponent or both writes. -/
def decimal? (text : Text) : Option Decimal :=
  let (mantissa, scale) := text.span fun c ↦ !isExponentMark c
  let (whole, point) := mantissa.span (· != '.')
  if point.isEmpty && scale.isEmpty then none
  else do
    let whole ← decimalRun whole
    let fraction ← fraction? point
    let exponent ← exponent? scale
    return ⟨whole ++ fraction, exponent - fraction.length⟩

/-- A word without its sign. -/
def unsigned : Text → Text
  | '+' :: rest => rest
  | '-' :: rest => rest
  | text => text

/-- Whether a word is a float: an infinity, no number, or a decimal number. A decimal number may
round to negative infinity and not to positive infinity. -/
def isFloat (text : Text) : Bool :=
  let body := unsigned text
  body == "inf".toList || body == "nan".toList ||
    (decimal? body).any fun number ↦ text.head? == some '-' || !number.roundsToInfinity

end Interning.Toml
