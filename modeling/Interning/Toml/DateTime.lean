import Interning.Toml.Number
/-!
Dates and times of a TOML document: a date, a time of day, or both with an offset from universal
time where wanted. `isDateTime` says which words are one. Dates follow the Gregorian calendar,
and a minute may have a leap second.
-/

set_option autoImplicit false
set_option relaxedAutoImplicit false

namespace Interning.Toml

/-- The number of days in a month of a year. -/
def daysIn (year month : Nat) : Nat :=
  if month == 2 then
    if year % 4 == 0 && (year % 100 != 0 || year % 400 == 0) then 29 else 28
  else if [4, 6, 9, 11].contains month then 30
  else 31

/-- Whether a text is a date: year, month and day. -/
def isDate : Text → Bool
  | [a, b, c, d, '-', e, f, '-', g, h] =>
    let month := valueOf 10 [e, f]
    let day := valueOf 10 [g, h]
    [a, b, c, d, e, f, g, h].all Char.isDigit && 1 ≤ month && month ≤ 12 && 1 ≤ day &&
      day ≤ daysIn (valueOf 10 [a, b, c, d]) month
  | _ => false

/-- Whether four digits are an hour and a minute. -/
def isHourMinute (a b c d : Char) : Bool :=
  [a, b, c, d].all Char.isDigit && valueOf 10 [a, b] ≤ 23 && valueOf 10 [c, d] ≤ 59

/-- Whether a text is a time of day, with a fraction of the second where wanted. -/
def isTime : Text → Bool
  | a :: b :: ':' :: c :: d :: ':' :: e :: f :: fraction =>
    isHourMinute a b c d && e.isDigit && f.isDigit && valueOf 10 [e, f] ≤ 60 &&
      match fraction with
      | [] => true
      | '.' :: digit :: digits => (digit :: digits).all Char.isDigit
      | _ => false
  | _ => false

/-- Whether a text is an offset from universal time. -/
def isOffset : Text → Bool
  | ['Z'] => true
  | ['z'] => true
  | [sign, a, b, ':', c, d] => (sign == '+' || sign == '-') && isHourMinute a b c d
  | _ => false

/-- Whether a text is a time of day, with an offset after it where wanted. -/
def isTimeWithOffset (text : Text) : Bool :=
  let (time, offset) := text.span fun c ↦ c != 'Z' && c != 'z' && c != '+' && c != '-'
  isTime time && (offset.isEmpty || isOffset offset)

/-- Whether a word is a time of day, a date, or a date and a time with a mark between them. -/
def isDateTime (word : Text) : Bool :=
  isTime word ||
    isDate (word.take 10) &&
      match word.drop 10 with
      | [] => true
      | mark :: time => (mark == 'T' || mark == 't' || mark == ' ') && isTimeWithOffset time

end Interning.Toml
