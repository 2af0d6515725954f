/-!
Texts are lists of code points, so that order by code point is the order of lists and every
function on names recurses on its input. `Text.lines` cuts a document into lines,
`Text.byteCount` is the size of a text in UTF-8, and the character classes below are the ones
that both the classifier and the literal printer read.
-/

set_option autoImplicit false
set_option relaxedAutoImplicit false

namespace Interning

/-- A text, one code point after the other. -/
abbrev Text := List Char

/-! ### Character classes -/

/-- Whether a character is one of the first 128 code points. -/
def isAscii (c : Char) : Bool :=
  c.toNat < 128

/-- Whether a character may stand inside an identifier: an ASCII letter or digit, an
underscore, or any character beyond ASCII. -/
def isIdentChar (c : Char) : Bool :=
  c.isAlphanum || c == '_' || !isAscii c

/-- Whether a character may begin an identifier: an identifier character other than a digit. -/
def isIdentStart (c : Char) : Bool :=
  c.isAlpha || c == '_' || !isAscii c

/-- Whether a character is a control character: C0, delete or C1. -/
def isControl (c : Char) : Bool :=
  c.toNat < 32 || (127 ≤ c.toNat && c.toNat < 160)

/-- Whether a character stands for itself in a literal: every character but the controls. -/
def isPrintable (c : Char) : Bool :=
  (' ' ≤ c && c ≤ '~') || (!isAscii c && !isControl c)

theorem toNat_of_isDigit {c : Char} (h : c.isDigit = true) : 48 ≤ c.toNat ∧ c.toNat ≤ 57 := by
  simpa [Char.isDigit, UInt32.le_iff_toNat_le] using h

/-- Characters that may begin an identifier may also stand inside one. -/
theorem isIdentChar_of_isIdentStart {c : Char} (h : isIdentStart c = true) :
    isIdentChar c = true := by
  simp only [isIdentStart, isIdentChar, Char.isAlphanum, Bool.or_eq_true] at h ⊢
  rcases h with (h | h) | h
  · exact .inl (.inl (.inl h))
  · exact .inl (.inr h)
  · exact .inr h

/-- The printable characters are those that are no controls. -/
theorem isPrintable_eq_not_isControl (c : Char) : isPrintable c = !isControl c := by
  have hspace : (' ' ≤ c) ↔ 32 ≤ c.toNat := Iff.rfl
  have htilde : (c ≤ '~') ↔ c.toNat ≤ 126 := Iff.rfl
  rw [Bool.eq_iff_iff]
  simp only [isPrintable, isAscii, isControl, Bool.or_eq_true, Bool.and_eq_true,
    decide_eq_true_eq, Bool.not_eq_true', Bool.or_eq_false_iff, Bool.and_eq_false_iff,
    decide_eq_false_iff_not, hspace, htilde]
  omega

namespace Text

/-- A text without its first character when that is `c`. -/
def skip (c : Char) : Text → Text
  | d :: rest => if d = c then rest else d :: rest
  | [] => []

/-! ### Size -/

/-- The number of bytes in the UTF-8 form of a text. -/
def byteCount : Text → Nat
  | [] => 0
  | c :: text => c.utf8Size + byteCount text

/-! ### Lines -/

/-- The lines of a document that begins with the given line, held in reverse. A line ends at a
line feed, and a carriage return just before the line feed belongs to the ending; what follows
the last line feed is a line only when it is not empty. -/
def linesFrom (current : Text) : Text → List Text
  | [] => if current.isEmpty then [] else [current.reverse]
  | '\n' :: rest =>
    let line := match current with
      | '\r' :: before => before
      | whole => whole
    line.reverse :: linesFrom [] rest
  | c :: rest => linesFrom (c :: current) rest

/-- The lines of a document. -/
def lines (document : Text) : List Text :=
  linesFrom [] document

end Text

end Interning
