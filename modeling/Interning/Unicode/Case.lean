import Interning.Text
import Interning.Unicode.CaseTable
/-!
Letter case of characters and of texts. A character's full mapping may be several characters
long. A text is uppercased character by character; lowercasing looks at the neighbours of a
capital sigma, which becomes a final sigma at the end of a word. `Text.capitalize` and
`Text.swapCase` are built from the two mappings.
-/

set_option autoImplicit false
set_option relaxedAutoImplicit false

namespace Interning

namespace Unicode

/-- Whether a character has the property Uppercase. -/
def isUppercase (c : Char) : Bool :=
  uppercaseSpans.any (·.contains c.toNat)

/-- Whether a character has the property Lowercase. -/
def isLowercase (c : Char) : Bool :=
  lowercaseSpans.any (·.contains c.toNat)

/-- Whether a character is uppercase, lowercase or titlecase. -/
def isCased (c : Char) : Bool :=
  isUppercase c || isLowercase c || titlecaseSpans.any (·.contains c.toNat)

/-- Whether a character is passed over when the case of its surroundings is decided. -/
def isCaseIgnorable (c : Char) : Bool :=
  caseIgnorableSpans.any (·.contains c.toNat)

/-- The image of a character under a case mapping given by its expansions and its shifts;
a character in neither maps to itself. -/
def mapCase (expansions : List (Nat × List Nat)) (shifts : List CaseShift) (c : Char) : Text :=
  match expansions.lookup c.toNat with
  | some codes => codes.map Char.ofNat
  | none => match shifts.find? (·.span.contains c.toNat) with
    | some shift => [Char.ofNat (shift.apply c.toNat)]
    | none => [c]

/-- The full uppercase mapping of a character. -/
def upper (c : Char) : Text :=
  mapCase upperExpansions upperShifts c

/-- The full lowercase mapping of a character. -/
def lower (c : Char) : Text :=
  mapCase lowerExpansions lowerShifts c

/-- Whether the first character that is not ignored is a cased one. -/
def reachesCased (text : Text) : Bool :=
  match text.dropWhile isCaseIgnorable with
  | c :: _ => isCased c
  | [] => false

end Unicode

namespace Text

open Unicode

/-- A text with every character uppercased. -/
def upcase (text : Text) : Text :=
  text.flatMap upper

/-- Lowercases a text that follows the characters of `before`, held in reverse. A capital sigma
that ends a word, with a cased character before it and none after it, becomes a final sigma. -/
def downcaseAfter (before : Text) : Text → Text
  | [] => []
  | c :: rest =>
    let image :=
      if c = 'Σ' then
        if reachesCased before && !reachesCased rest then ['ς'] else ['σ']
      else lower c
    image ++ downcaseAfter (c :: before) rest

/-- A text with every character lowercased. -/
def downcase (text : Text) : Text :=
  downcaseAfter [] text

/-- A text with its first character uppercased and the rest lowercased as a text of its own. -/
def capitalize : Text → Text
  | [] => []
  | first :: rest => upper first ++ downcase rest

/-- A text with the case of every character flipped. -/
def swapCase (text : Text) : Text :=
  text.flatMap fun c ↦
    if isUppercase c then lower c
    else if isLowercase c then upper c
    else [c]

end Text

end Interning
