import Interning.Numeral
/-!
Symbol literals. A name is written after a colon, bare when it reads back as one symbol and as a
double-quoted string otherwise.

`scanBare` reads the bare form at the head of a text and returns what it leaves unread, so that
a text `isBare` when every character is printable and nothing is left. `quote` escapes quotes,
backslashes, controls, and a number sign that would open an interpolation. `literal` is the
written form.
-/

set_option autoImplicit false
set_option relaxedAutoImplicit false

namespace Interning.Literal

/-! ### Bare names -/

/-- Reads an identifier, and after it one of `!`, `?` and `=` when a suffix is allowed. -/
def scanIdentifier (suffix : Bool) : Text → Option Text
  | [] => none
  | c :: rest =>
    if isIdentStart c then
      match rest.dropWhile isIdentChar with
      | d :: unread =>
        if suffix && (d == '!' || d == '?' || d == '=') then some unread else some (d :: unread)
      | [] => some []
    else none

/-- The characters that name a special global on their own. -/
def specialGlobals : List Char :=
  ['~', '*', '$', '?', '!', '@', '/', '\\', ';', ',', '.', '=', ':', '<', '>', '"', '&', '\x60',
    '\'', '+', '0']

/-- Whether the text after a dollar sign names a special global: one of the characters above, a
hyphen with at most one identifier character, or digits. -/
def isSpecialGlobal : Text → Bool
  | [] => false
  | c :: rest =>
    if specialGlobals.contains c then rest.isEmpty
    else if c == '-' then
      match rest with
      | [] => true
      | d :: unread => isIdentChar d && unread.isEmpty
    else c.isDigit && (rest.dropWhile Char.isDigit).isEmpty

/-- Reads the bare form of a symbol: a global, an instance or class variable, an operator that
is a method name, or an identifier, whose suffix is allowed unless an ASCII capital leads. -/
def scanBare : Text → Option Text
  | [] => none
  | '$' :: rest => if isSpecialGlobal rest then some [] else scanIdentifier false rest
  | '@' :: rest => scanIdentifier false (Text.skip '@' rest)
  | '<' :: '<' :: rest => some rest
  | '<' :: '=' :: rest => some (Text.skip '>' rest)
  | '<' :: rest => some rest
  | '>' :: '>' :: rest => some rest
  | '>' :: rest => some (Text.skip '=' rest)
  | '=' :: '~' :: rest => some rest
  | '=' :: '=' :: rest => some (Text.skip '=' rest)
  | '=' :: _ => none
  | '*' :: rest => some (Text.skip '*' rest)
  | '+' :: rest => some (Text.skip '@' rest)
  | '-' :: rest => some (Text.skip '@' rest)
  | '|' :: rest => some rest
  | '^' :: rest => some rest
  | '&' :: rest => some rest
  | '/' :: rest => some rest
  | '%' :: rest => some rest
  | '~' :: rest => some rest
  | '\x60' :: rest => some rest
  | '[' :: ']' :: rest => some (Text.skip '=' rest)
  | '[' :: _ => none
  | '!' :: [] => some []
  | '!' :: '=' :: rest => some rest
  | '!' :: '~' :: rest => some rest
  | '!' :: _ => none
  | first :: rest => scanIdentifier (!first.isUpper) (first :: rest)

/-- Whether a text reads back as one symbol without quotes. -/
def isBare (text : Text) : Bool :=
  text.all isPrintable && scanBare text == some []

/-! ### Quoted names -/

/-- Whether a number sign before this character would open an interpolation. -/
def opensInterpolation (c : Char) : Bool :=
  c == '\x7b' || c == '$' || c == '@'

/-- A character as a quoted literal writes it, given the character that follows. -/
def escape (c : Char) (next : Option Char) : Text :=
  if c = '"' then ['\\', '"']
  else if c = '\\' then ['\\', '\\']
  else if c = '#' && next.any opensInterpolation then ['\\', '#']
  else if c = '\n' then ['\\', 'n']
  else if c = '\r' then ['\\', 'r']
  else if c = '\t' then ['\\', 't']
  else if c = '\x0c' then ['\\', 'f']
  else if c = '\x0b' then ['\\', 'v']
  else if c = '\x08' then ['\\', 'b']
  else if c = '\x07' then ['\\', 'a']
  else if c = '\x1b' then ['\\', 'e']
  else if isPrintable c then [c]
  else '\\' :: 'u' :: Numeral.fourHexDigits c.toNat

/-- The characters of a text, each escaped where it has to be. -/
def escapeAll : Text → Text
  | [] => []
  | c :: rest => escape c rest.head? ++ escapeAll rest

/-- A text as a double-quoted literal. -/
def quote (text : Text) : Text :=
  '"' :: escapeAll text ++ ['"']

/-- The symbol literal of a name. -/
def literal (text : Text) : Text :=
  ':' :: if isBare text then text else quote text

end Interning.Literal
