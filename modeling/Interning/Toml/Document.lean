import Interning.Toml.Scalar
/-!
Reading TOML documents. A document is a list of statements, each on lines of its own: headers of
tables, headers of arrays of tables, and assignments. `Document.statements` reads them and
`Document.read` builds the root table, or answers nothing when the text is no document.

Besides the values that are one word there are strings in either kind of quotes, on one line or
on several, arrays, and inline tables.

This is what is assumed of the library that reads the documents of settings: it accepts these texts
and no others, and finds these values in them.
-/

set_option autoImplicit false
set_option relaxedAutoImplicit false

namespace Interning.Toml

/-! ### Blanks, comments and line ends -/

def isBlank (c : Char) : Bool :=
  c == ' ' || c == '\t'

/-- Whether a character may stand in a comment or, quotes and backslashes apart, in a string. -/
def isTextChar (c : Char) : Bool :=
  c == '\t' || (32 ≤ c.toNat && c.toNat != 127)

/-- A text without the blanks it begins with. -/
def skipBlanks (text : Text) : Text :=
  text.dropWhile isBlank

/-- A text without the comment it begins with. -/
def skipComment : Text → Text
  | '#' :: rest => rest.dropWhile isTextChar
  | text => text

/-- The text after the line end it begins with. -/
def newline? : Text → Option Text
  | '\n' :: rest => some rest
  | '\r' :: '\n' :: rest => some rest
  | _ => none

theorem length_lt_of_newline? {text rest : Text} (h : newline? text = some rest) :
    rest.length < text.length := by
  unfold newline? at h
  split at h
  · cases h
    simp
  · cases h
    simp only [List.length_cons]
    omega
  · cases h

/-- The text after the end of a line, before which only blanks and a comment may stand. -/
def lineEnd (text : Text) : Option Text :=
  match skipComment (skipBlanks text) with
  | [] => some []
  | text => newline? text

/-- A text without the blanks, line ends and comments it begins with. -/
def skipLines (inComment : Bool) : Text → Text
  | [] => []
  | '\n' :: rest => skipLines false rest
  | '\r' :: '\n' :: rest => skipLines false rest
  | c :: rest =>
    if inComment then
      if isTextChar c then skipLines true rest else c :: rest
    else if isBlank c then skipLines false rest
    else if c == '#' then skipLines true rest
    else c :: rest

/-! ### Strings -/

/-- The character that hexadecimal digits write, if they write a character. -/
def charOfHex? (digits : Text) : Option Char :=
  if digits.all (isDigitOf 16) then
    let code := valueOf 16 digits
    if code.isValidChar then some (Char.ofNat code) else none
  else none

/-- Reads an escape after its backslash. -/
def escape? : Text → Option (Char × Text)
  | 'b' :: rest => some ('\x08', rest)
  | 't' :: rest => some ('\t', rest)
  | 'n' :: rest => some ('\n', rest)
  | 'f' :: rest => some ('\x0c', rest)
  | 'r' :: rest => some ('\r', rest)
  | '"' :: rest => some ('"', rest)
  | '\\' :: rest => some ('\\', rest)
  | 'u' :: a :: b :: c :: d :: rest => (charOfHex? [a, b, c, d]).map (·, rest)
  | 'U' :: a :: b :: c :: d :: e :: f :: g :: h :: rest =>
    (charOfHex? [a, b, c, d, e, f, g, h]).map (·, rest)
  | _ => none

theorem length_lt_of_escape? {text rest : Text} {c : Char} (h : escape? text = some (c, rest)) :
    rest.length < text.length := by
  unfold escape? at h
  split at h
  case h_8 | h_9 =>
    obtain ⟨_, _, h⟩ := Option.map_eq_some_iff.1 h
    cases h
    simp only [List.length_cons]
    omega
  case h_10 => cases h
  all_goals
    cases h
    simp

/-- A character put in front of a string that has been read. -/
def cons (c : Char) (read : Option (Text × Text)) : Option (Text × Text) :=
  read.map fun (string, rest) ↦ (c :: string, rest)

/-- Reads a string on one line after its opening quote. Between double quotes a backslash begins
an escape. -/
def quoted (quote : Char) : Text → Option (Text × Text)
  | [] => none
  | c :: rest =>
    if c = quote then some ([], rest)
    else if c = '\\' ∧ quote = '"' then
      match _h : escape? rest with
      | some (c, rest) => cons c (quoted quote rest)
      | none => none
    else if isTextChar c then cons c (quoted quote rest)
    else none
termination_by text => text.length
decreasing_by
  · have := length_lt_of_escape? _h
    simp only [List.length_cons]
    omega
  · simp

/-- Reads the three quotes that close a string of several lines. Of a longer run the first two
at most belong to the string. -/
def closing? (quote : Char) (text : Text) : Option (Text × Text) :=
  let count := (text.takeWhile (· == quote)).length
  if count < 3 then none
  else
    let kept := min (count - 3) 2
    some (List.replicate kept quote, text.drop (kept + 3))

/-- Reads a string of several lines after its opening quotes. A line end is one line feed.
Between double quotes a backslash begins an escape, and one at the end of a line begins a gap:
the blanks and line ends after it are no part of the string. -/
def quotedLines (quote : Char) (inGap : Bool) (text : Text) : Option (Text × Text) :=
  match closing? quote text with
  | some closed => some closed
  | none =>
    match _hLine : newline? text with
    | some rest =>
      if inGap then quotedLines quote true rest else cons '\n' (quotedLines quote false rest)
    | none =>
      match text with
      | [] => none
      | c :: rest =>
        if inGap && isBlank c then quotedLines quote true rest
        else if c = '\\' ∧ quote = '"' then
          if (newline? (skipBlanks rest)).isSome then quotedLines quote true rest
          else
            match _hEscape : escape? rest with
            | some (c, rest) => cons c (quotedLines quote false rest)
            | none => none
        else if isTextChar c then cons c (quotedLines quote false rest)
        else none
termination_by text.length
decreasing_by
  · exact length_lt_of_newline? _hLine
  · exact length_lt_of_newline? _hLine
  · simp
  · simp
  · have := length_lt_of_escape? _hEscape
    simp only [List.length_cons]
    omega
  · simp

/-- Reads a string that opens with a quote. Three quotes open a string of several lines, which
begins after the line end that follows them, if one does. -/
def stringOf (quote : Char) (rest : Text) : Option (Text × Text) :=
  match rest with
  | a :: b :: body =>
    if a = quote ∧ b = quote then quotedLines quote false ((newline? body).getD body)
    else quoted quote rest
  | _ => quoted quote rest

/-! ### Keys -/

/-- Whether a character may stand in a key without quotes. -/
def isKeyChar (c : Char) : Bool :=
  c.isAlphanum || c == '_' || c == '-'

/-- Reads one part of a key. -/
def keyPart : Text → Option (Text × Text)
  | '"' :: rest => quoted '"' rest
  | '\'' :: rest => quoted '\'' rest
  | text =>
    match text.span isKeyChar with
    | ([], _) => none
    | read => some read

/-- Reads a key of at most the given number of parts; blanks may stand around its dots. -/
def keyOfParts : Nat → Text → Option (Key × Text)
  | 0, _ => none
  | parts + 1, text =>
    (keyPart text).bind fun (name, rest) ↦
      match skipBlanks rest with
      | '.' :: more =>
        (keyOfParts parts (skipBlanks more)).map fun (key, rest) ↦
          (⟨name :: key.path, key.name⟩, rest)
      | rest => some (⟨[], name⟩, rest)

/-- How many parts a key may have, and how deep arrays and inline tables may stand in each
other. -/
def nestingLimit : Nat :=
  79

/-- Reads a key and the blanks after it. -/
def key? (text : Text) : Option (Key × Text) :=
  keyOfParts nestingLimit text

/-! ### Values -/

mutual

/-- Reads a value with at most `depth` arrays and inline tables around each other, in at most the
given number of steps. -/
def valueIn : Nat → Nat → Text → Option (Value × Text)
  | _, 0, _ => none
  | _, _ + 1, '"' :: rest =>
    (stringOf '"' rest).map fun (string, rest) ↦ (.string string, rest)
  | _, _ + 1, '\'' :: rest =>
    (stringOf '\'' rest).map fun (string, rest) ↦ (.string string, rest)
  | depth + 1, steps + 1, '[' :: rest =>
    (itemsIn depth steps rest).map fun (items, rest) ↦ (.array items, rest)
  | depth + 1, steps + 1, '\x7b' :: rest =>
    match skipBlanks rest with
    | '\x7d' :: rest => some (.table .inline [], rest)
    | rest =>
      (pairsIn depth steps rest).bind fun (pairs, rest) ↦
        (Entries.ofAssignments pairs).map fun entries ↦ (.table .inline entries, rest)
  | _, _ + 1, text =>
    let (word, rest) := readWord text
    (scalar? word).map fun value ↦ (value, rest)

/-- Reads the rest of an array: items between commas. A comma may follow the last item too. -/
def itemsIn : Nat → Nat → Text → Option (List Value × Text)
  | _, 0, _ => none
  | depth, steps + 1, text =>
    match skipLines false text with
    | ']' :: rest => some ([], rest)
    | text =>
      (valueIn depth steps text).bind fun (value, rest) ↦
        match skipLines false rest with
        | ',' :: rest =>
          (itemsIn depth steps rest).map fun (items, rest) ↦ (value :: items, rest)
        | ']' :: rest => some ([value], rest)
        | _ => none

/-- Reads the rest of an inline table that has at least one more pair. -/
def pairsIn : Nat → Nat → Text → Option (List (Key × Value) × Text)
  | _, 0, _ => none
  | depth, steps + 1, text =>
    (key? (skipBlanks text)).bind fun (key, rest) ↦
      match rest with
      | '=' :: rest =>
        (valueIn depth steps (skipBlanks rest)).bind fun (value, rest) ↦
          match skipBlanks rest with
          | ',' :: rest =>
            (pairsIn depth steps rest).map fun (pairs, rest) ↦ ((key, value) :: pairs, rest)
          | '\x7d' :: rest => some ([(key, value)], rest)
          | _ => none
      | _ => none

end

/-- Reads a value. Of two steps in a row one takes a character off the text, so the steps
suffice. -/
def value? (text : Text) : Option (Value × Text) :=
  valueIn nestingLimit (2 * text.length + 2) text

/-! ### Statements -/

/-- A statement of a document. -/
inductive Statement where
  | header (key : Key)
  | arrayHeader (key : Key)
  | assignment (key : Key) (value : Value)

/-- Reads a line that holds a statement. -/
def statementLine? (text : Text) : Option (Statement × Text) :=
  match skipBlanks text with
  | '[' :: '[' :: rest =>
    (key? (skipBlanks rest)).bind fun (key, rest) ↦
      match rest with
      | ']' :: ']' :: rest => (lineEnd rest).map fun rest ↦ (.arrayHeader key, rest)
      | _ => none
  | '[' :: rest =>
    (key? (skipBlanks rest)).bind fun (key, rest) ↦
      match rest with
      | ']' :: rest => (lineEnd rest).map fun rest ↦ (.header key, rest)
      | _ => none
  | text =>
    (key? text).bind fun (key, rest) ↦
      match rest with
      | '=' :: rest =>
        (value? (skipBlanks rest)).bind fun (value, rest) ↦
          (lineEnd rest).map fun rest ↦ (.assignment key value, rest)
      | _ => none

/-- Reads a line up to and including its end, with the statement on it if there is one. -/
def line? (text : Text) : Option (Option Statement × Text) :=
  match lineEnd text with
  | some rest => some (none, rest)
  | none => (statementLine? text).map fun (statement, rest) ↦ (some statement, rest)

namespace Document

/-- The statements of a document. -/
def statements (text : Text) : Option (List Statement) :=
  if text.isEmpty then some []
  else
    match line? text with
    | none => none
    | some (statement, rest) =>
      if rest.length < text.length then
        (statements rest).map fun more ↦ statement.toList ++ more
      else none
termination_by text.length
decreasing_by assumption

/-- A root table under construction, with the path of the table that assignments go to. -/
structure State where
  root : Entries
  current : List Text

/-- The effect of a statement. -/
def State.apply (state : State) : Statement → Option State
  | .header key =>
    (Entries.atPath (Entries.nameTable key.name) state.root key.path).map fun root ↦
      ⟨root, key.path ++ [key.name]⟩
  | .arrayHeader key =>
    (Entries.atPath (Entries.addTable key.name) state.root key.path).map fun root ↦
      ⟨root, key.path ++ [key.name]⟩
  | .assignment key value =>
    let change := fun entries ↦ Entries.assign key.name value entries key.path
    (Entries.atPath change state.root state.current).map fun root ↦ ⟨root, state.current⟩

/-- The root table that statements define, unless two of them conflict. -/
def ofStatements (statements : List Statement) : Option Entries :=
  (statements.foldlM State.apply ⟨[], []⟩).map State.root

/-- The root table of a document; a byte order mark may stand before it. -/
def read (text : Text) : Option Entries :=
  (statements (Text.skip '\ufeff' text)).bind ofStatements

end Document

end Interning.Toml
