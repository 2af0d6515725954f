import Interning.Token
import Interning.Unicode.Case
/-!
The scope of a name, decided by its spelling. The first character tells variables from words; a
word is an operator, a constant or a local name; and a text that ends in an equals sign is the
setter of what stands before the sign, unless that is itself a setter or an operator.

`classify` walks a run of closing equals signs outward from the text before the run, so it
settles every prefix once and its recursion counts the signs.
-/

set_option autoImplicit false
set_option relaxedAutoImplicit false

namespace Interning

/-- The given scope when a text is empty or an identifier tail that does not begin with a digit,
and junk otherwise. -/
def scan (text : Text) (scope : Scope) : Scope :=
  match text with
  | [] => scope
  | c :: _ => if c.isDigit then .junk else if text.all isIdentChar then scope else .junk

/-- Whether a text has something before a closing equals sign and is no comparison. -/
def isSetterShape (text : Text) : Bool :=
  1 < text.length && text.getLast? == some '=' && !Token.comparisons.contains text

/-- The scope of a text to which the setter rule does not apply. -/
def classifyWord (text : Text) : Scope :=
  if (Token.find? text).isSome then .operator
  else match text with
    | c :: _ => if Unicode.isUppercase c then scan text .constant else scan text .localName
    | [] => .localName

/-- The part of a text before its closing run of equals signs; of a text that holds nothing
else, the first sign. -/
def stem (text : Text) : Text :=
  match text.reverse.dropWhile (· == '=') with
  | [] => ['=']
  | reversed => reversed.reverse

/-- The scope of a text that ends in an equals sign, given the scope of the text before it. -/
def scopeAfterSign (text : Text) (before : Scope) : Scope :=
  if (Token.find? text).isSome then .operator
  else if isSetterShape text then
    match before with
    | .setter | .operator => .junk
    | _ => .setter
  else classifyWord text

/-- The scope of a text followed by some equals signs, given the scope of the text alone. -/
def classifyRun (text : Text) (scope : Scope) : Nat → Scope
  | 0 => scope
  | signs + 1 =>
    let longer := text ++ ['=']
    classifyRun longer (scopeAfterSign longer scope) signs

/-- The scope of a text of setter shape. -/
def classifySetter (text : Text) : Scope :=
  let start := stem text
  classifyRun start (classifyWord start) (text.length - start.length)

/-- The scope of a name. -/
def classify (text : Text) : Scope :=
  match text with
  | '$' :: _ => .globalVariable
  | '@' :: '@' :: name => scan name .classVariable
  | '@' :: name => scan name .instanceVariable
  | _ => if isSetterShape text then classifySetter text else classifyWord text

/-- The empty text is no setter. -/
theorem ne_nil_of_classify_eq_setter {text : Text} (h : classify text = .setter) : text ≠ [] := by
  rintro rfl
  exact absurd h (by decide)

end Interning
