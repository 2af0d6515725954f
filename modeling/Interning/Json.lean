import Interning.Numeral
/-!
JSON values and their indented text. Members keep the order in which they are given; a string
escapes quotes, backslashes and the controls below the space, and nothing else.
-/

set_option autoImplicit false
set_option relaxedAutoImplicit false

namespace Interning

/-- A JSON value of the kinds that reports use. -/
inductive Json where
  | boolean (value : Bool)
  | number (value : Nat)
  | string (value : Text)
  | array (items : List Json)
  | object (members : List (String × Json))

namespace Json

/-- The last two hexadecimal digits of a number. -/
def twoHexDigits (n : Nat) : Text :=
  [Nat.digitChar (n / 16 % 16), Nat.digitChar (n % 16)]

/-- A character as a string holds it. -/
def escape (c : Char) : Text :=
  if c = '"' then ['\\', '"']
  else if c = '\\' then ['\\', '\\']
  else if c = '\x08' then ['\\', 'b']
  else if c = '\t' then ['\\', 't']
  else if c = '\n' then ['\\', 'n']
  else if c = '\x0c' then ['\\', 'f']
  else if c = '\r' then ['\\', 'r']
  else if c.toNat < 32 then "\\u00".toList ++ twoHexDigits c.toNat
  else [c]

/-- A text in quotes. -/
def quote (text : Text) : Text :=
  '"' :: text.flatMap escape ++ ['"']

/-- The start of a line at a depth of nesting. -/
def newline (depth : Nat) : Text :=
  '\n' :: List.replicate (2 * depth) ' '

mutual

/-- A value in indented form, where its first line stands at the given depth. -/
def pretty (depth : Nat) : Json → Text
  | .boolean value => (toString value).toList
  | .number value => Numeral.decimal value
  | .string value => quote value
  | .array [] => ['[', ']']
  | .array (item :: items) =>
    '[' :: newline (depth + 1) ++ pretty (depth + 1) item ++ prettyItems (depth + 1) items ++
      newline depth ++ [']']
  | .object [] => ['\x7b', '\x7d']
  | .object ((name, value) :: members) =>
    '\x7b' :: newline (depth + 1) ++ quote name.toList ++ [':', ' '] ++
      pretty (depth + 1) value ++ prettyMembers (depth + 1) members ++ newline depth ++ ['\x7d']

/-- The items of an array after its first one. -/
def prettyItems (depth : Nat) : List Json → Text
  | [] => []
  | item :: items => ',' :: newline depth ++ pretty depth item ++ prettyItems depth items

/-- The members of an object after its first one. -/
def prettyMembers (depth : Nat) : List (String × Json) → Text
  | [] => []
  | (name, value) :: members =>
    ',' :: newline depth ++ quote name.toList ++ [':', ' '] ++ pretty depth value ++
      prettyMembers depth members

end

/-- A value as a document of its own. -/
def document (value : Json) : Text :=
  pretty 0 value ++ ['\n']

end Json

end Interning
