import Interning.Toml.DateTime
import Interning.Toml.Value
/-!
Values that are one word: truth values, integers, floats, and dates and times. An integer outside
the signed 64-bit range is no value at all. A date and a time may stand with a space between
them; `readWord` takes them as one word.
-/

set_option autoImplicit false
set_option relaxedAutoImplicit false

namespace Interning.Toml

/-- The characters of which words are made. -/
def isWordChar (c : Char) : Bool :=
  c.isAlphanum || c == '_' || c == '+' || c == '-' || c == '.' || c == ':'

/-- The value of a word. -/
def scalar? (word : Text) : Option Value :=
  if word = "true".toList then some (.boolean true)
  else if word = "false".toList then some (.boolean false)
  else match integer? word with
    | some n => if isSignedWord n then some (.integer n) else none
    | none =>
      if isFloat word then some (.float word)
      else if isDateTime word then some (.dateTime word)
      else none

/-- The word that a text begins with, which may be a date, a space and a time. -/
def readWord (text : Text) : Text × Text :=
  let (word, rest) := text.span isWordChar
  match rest with
  | ' ' :: more =>
    let (time, after) := more.span isWordChar
    if isDate word && isTimeWithOffset time then (word ++ ' ' :: time, after) else (word, rest)
  | _ => (word, rest)

end Interning.Toml
