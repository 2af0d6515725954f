import Interning.Literal
import Mathlib.Data.List.TakeWhile

/-!
# The language of bare names

A name is written without quotes when it reads back as one symbol. `Literal.isBare` decides this
with a scanner that consumes what it can and asks at the end whether anything is left. `BareName`
is the language that the scanner is to accept, one constructor for each kind of name, over character
classes that are given by code points. `Literal.isBare_iff` shows that the two agree on every text.

The scanner is opened once in each direction. `Literal.scanIdentifier_eq_some_nil_iff` says what
its reader of identifiers accepts, `Literal.bareName_of_isSpecialGlobal` what its reader of globals
does, and `Literal.scanBare_of_begins` that a text which begins like an identifier is read as one;
the operators are what the remaining branches accept.
-/

set_option autoImplicit false
set_option relaxedAutoImplicit false

namespace Interning

/-! ### The language -/

/-- An underscore, an ASCII letter or a character beyond ASCII. -/
def BeginsIdentifier (c : Char) : Prop :=
  c = '_' ∨ c.isAlpha = true ∨ 128 ≤ c.toNat

instance : DecidablePred BeginsIdentifier :=
  fun c ↦ inferInstanceAs (Decidable (c = '_' ∨ c.isAlpha = true ∨ 128 ≤ c.toNat))

/-- An ASCII letter or digit, an underscore or a character beyond ASCII. -/
def ContinuesIdentifier (c : Char) : Prop :=
  c.isAlphanum = true ∨ c = '_' ∨ 128 ≤ c.toNat

/-- A character that shows as itself: from the space to the tilde in ASCII, and beyond ASCII
whatever is no control, of which the last is U+009F. -/
def IsPrintable (c : Char) : Prop :=
  (0x20 ≤ c.toNat ∧ c.toNat ≤ 0x7E) ∨ 0xA0 ≤ c.toNat

/-- A character that begins an identifier, and any number of characters that continue it. -/
def IsIdentifier : Text → Prop
  | [] => False
  | c :: rest => BeginsIdentifier c ∧ ∀ d ∈ rest, ContinuesIdentifier d

/-- The operators that are names of methods. -/
def methodOperators : List Text :=
  [['<'], ['<', '<'], ['<', '='], ['<', '=', '>'], ['>'], ['>', '>'], ['>', '='], ['=', '~'],
    ['=', '='], ['=', '=', '='], ['*'], ['*', '*'], ['+'], ['-'], ['+', '@'], ['-', '@'], ['|'],
    ['^'], ['&'], ['/'], ['%'], ['~'], ['\x60'], ['[', ']'], ['[', ']', '='], ['!'], ['!', '='],
    ['!', '~']]

/-- The characters that name a global variable of the language after a dollar sign. -/
def globalMarks : List Char :=
  ['~', '*', '$', '?', '!', '@', '/', '\\', ';', ',', '.', '=', ':', '<', '>', '"', '&', '\x60',
    '\'', '+', '0']

/-- The names that are written without quotes. -/
inductive BareName : Text → Prop
  | operator {text : Text} (h : text ∈ methodOperators) : BareName text
  | markedGlobal {mark : Char} (h : mark ∈ globalMarks) : BareName ['$', mark]
  | optionGlobal {option : Text} (hlength : option.length ≤ 1)
      (h : ∀ c ∈ option, ContinuesIdentifier c) : BareName ('$' :: '-' :: option)
  | numberedGlobal {digits : Text} (hne : digits ≠ []) (h : ∀ c ∈ digits, c.isDigit = true)
      (hzero : digits.head? ≠ some '0') : BareName ('$' :: digits)
  | namedGlobal {name : Text} (h : IsIdentifier name) : BareName ('$' :: name)
  | instanceVariable {name : Text} (h : IsIdentifier name) : BareName ('@' :: name)
  | classVariable {name : Text} (h : IsIdentifier name) : BareName ('@' :: '@' :: name)
  | identifier {name : Text} (h : IsIdentifier name) : BareName name
  | marked {name : Text} {mark : Char} (h : IsIdentifier name)
      (hcapital : ∀ c ∈ name.head?, c.isUpper = false) (hmark : mark ∈ ['!', '?', '=']) :
      BareName (name ++ [mark])

/-! ### Characters -/

theorem isAscii_eq_false_iff {c : Char} : isAscii c = false ↔ 128 ≤ c.toNat := by
  simp [isAscii]

theorem isIdentStart_iff {c : Char} : isIdentStart c = true ↔ BeginsIdentifier c := by
  simp only [isIdentStart, BeginsIdentifier, Bool.or_eq_true, beq_iff_eq, Bool.not_eq_true',
    isAscii_eq_false_iff]
  rw [or_comm (a := c.isAlpha = true), or_assoc]

theorem isIdentChar_iff {c : Char} : isIdentChar c = true ↔ ContinuesIdentifier c := by
  simp only [isIdentChar, ContinuesIdentifier, Bool.or_eq_true, beq_iff_eq, Bool.not_eq_true',
    isAscii_eq_false_iff, or_assoc]

theorem isPrintable_iff {c : Char} : isPrintable c = true ↔ IsPrintable c := by
  rw [isPrintable_eq_not_isControl]
  simp only [isControl, IsPrintable, Bool.not_eq_true', Bool.or_eq_false_iff,
    Bool.and_eq_false_iff, decide_eq_false_iff_not]
  omega

namespace Literal

/-! ### Identifiers -/

/-- Every identifier character is passed over, and a mark is none. -/
theorem dropWhile_append_mark {rest : Text} {mark : Char}
    (h : ∀ c ∈ rest, ContinuesIdentifier c) (hmark : mark ∈ ['!', '?', '=']) :
    (rest ++ [mark]).dropWhile isIdentChar = [mark] := by
  have hnot : isIdentChar mark = false := by
    simp only [List.mem_cons, List.not_mem_nil, or_false] at hmark
    rcases hmark with rfl | rfl | rfl <;> decide
  rw [List.dropWhile_append_of_pos fun c hc ↦ isIdentChar_iff.mpr (h c hc),
    List.dropWhile_cons_of_neg (by simp [hnot])]

/-- The reader of identifiers accepts an identifier, and one with a mark where a suffix is
allowed. -/
theorem scanIdentifier_eq_some_nil_iff {suffix : Bool} {text : Text} :
    scanIdentifier suffix text = some [] ↔
      IsIdentifier text ∨
        suffix = true ∧
          ∃ name mark, IsIdentifier name ∧ mark ∈ ['!', '?', '='] ∧ text = name ++ [mark] := by
  constructor
  · intro h
    unfold scanIdentifier at h
    split at h
    · simp at h
    · next c rest =>
      split at h
      · next hbegins =>
        rw [isIdentStart_iff] at hbegins
        split at h
        · next d unread hdrop =>
          split at h
          · next hmark =>
            simp only [Bool.and_eq_true, Bool.or_eq_true, beq_iff_eq, or_assoc] at hmark
            obtain rfl := Option.some.inj h
            refine .inr ⟨hmark.1, c :: rest.takeWhile isIdentChar, d, ⟨hbegins, ?_⟩, ?_, ?_⟩
            · intro e he
              exact isIdentChar_iff.mp (List.mem_takeWhile_imp he)
            · simpa using hmark.2
            · rw [List.cons_append, ← hdrop, List.takeWhile_append_dropWhile]
          · simp at h
        · next hdrop =>
          refine .inl ⟨hbegins, fun d hd ↦ ?_⟩
          exact isIdentChar_iff.mp (List.dropWhile_eq_nil_iff.mp hdrop d hd)
      · simp at h
  · rintro (h | ⟨rfl, name, mark, h, hmark, rfl⟩)
    · cases text with
      | nil => exact h.elim
      | cons c rest =>
        have hdrop : rest.dropWhile isIdentChar = [] :=
          List.dropWhile_eq_nil_iff.mpr fun d hd ↦ isIdentChar_iff.mpr (h.2 d hd)
        rw [scanIdentifier, if_pos (isIdentStart_iff.mpr h.1), hdrop]
    · cases name with
      | nil => exact h.elim
      | cons c rest =>
        rw [List.cons_append, scanIdentifier, if_pos (isIdentStart_iff.mpr h.1),
          dropWhile_append_mark h.2 hmark]
        simp only [List.mem_cons, List.not_mem_nil, or_false] at hmark
        simp [hmark, or_assoc]

theorem scanIdentifier_false_eq_some_nil_iff {text : Text} :
    scanIdentifier false text = some [] ↔ IsIdentifier text := by
  simp [scanIdentifier_eq_some_nil_iff]

/-! ### Globals -/

theorem bareName_of_isSpecialGlobal {rest : Text} (h : isSpecialGlobal rest = true) :
    BareName ('$' :: rest) := by
  unfold isSpecialGlobal at h
  split at h
  · simp at h
  · next c rest =>
    split at h
    · next hmark =>
      obtain rfl := List.isEmpty_iff.mp h
      exact .markedGlobal (List.contains_iff_mem.mp hmark)
    · next hmark =>
      split at h
      · next hhyphen =>
        obtain rfl := beq_iff_eq.mp hhyphen
        split at h
        · exact .optionGlobal (by simp) (by simp)
        · next d unread =>
          simp only [Bool.and_eq_true, List.isEmpty_iff] at h
          obtain ⟨hoption, rfl⟩ := h
          exact .optionGlobal (by simp) (by simpa using isIdentChar_iff.mp hoption)
      · simp only [Bool.and_eq_true, List.isEmpty_iff, List.dropWhile_eq_nil_iff] at h
        refine .numberedGlobal (by simp) (by simpa using h) ?_
        -- A leading zero is a mark.
        rintro hzero
        obtain rfl := Option.some.inj hzero
        exact hmark (by decide)

theorem isSpecialGlobal_option {option : Text} (hlength : option.length ≤ 1)
    (h : ∀ c ∈ option, ContinuesIdentifier c) : isSpecialGlobal ('-' :: option) = true := by
  match option with
  | [] => rfl
  | [c] =>
    have hchar : isIdentChar c = true := isIdentChar_iff.mpr (h c List.mem_cons_self)
    simp [isSpecialGlobal, specialGlobals, hchar]
  | _ :: _ :: _ => simp at hlength

theorem isSpecialGlobal_digits {digits : Text} (hne : digits ≠ [])
    (h : ∀ c ∈ digits, c.isDigit = true) (hzero : digits.head? ≠ some '0') :
    isSpecialGlobal digits = true := by
  cases digits with
  | nil => exact absurd rfl hne
  | cons c rest =>
    have hdigit := h c List.mem_cons_self
    have hrest : rest.dropWhile Char.isDigit = [] :=
      List.dropWhile_eq_nil_iff.mpr fun d hd ↦ h d (List.mem_cons_of_mem c hd)
    have hmark : c ∉ specialGlobals := by
      intro hmem
      have hdigits : specialGlobals.filter Char.isDigit = ['0'] := by decide
      have hfilter : c ∈ ['0'] := hdigits ▸ List.mem_filter.mpr ⟨hmem, hdigit⟩
      exact hzero (congrArg some (List.mem_singleton.mp hfilter))
    have hhyphen : c ≠ '-' := by
      rintro rfl
      exact absurd hdigit (by decide)
    simp [isSpecialGlobal, hmark, hhyphen, hdigit, hrest]

/-! ### The scanner -/

theorem skip_eq_nil_iff {c : Char} {text : Text} :
    Text.skip c text = [] ↔ text = [] ∨ text = [c] := by
  cases text with
  | nil => simp [Text.skip]
  | cons d rest =>
    by_cases hd : d = c <;> simp [Text.skip, hd]

/-- No sigil and no operator begins like an identifier. -/
theorem scanBare_of_begins {c : Char} (h : BeginsIdentifier c) (rest : Text) :
    scanBare (c :: rest) = scanIdentifier (!c.isUpper) (c :: rest) := by
  generalize htext : c :: rest = text
  unfold scanBare
  split
  case h_1 => simp at htext
  case h_28 =>
    obtain ⟨rfl, -⟩ := List.cons.inj htext
    rfl
  all_goals
    obtain ⟨rfl, -⟩ := List.cons.inj htext
    exact absurd h (by decide)

/-- After an at sign, a second one belongs to the sigil. -/
theorem bareName_of_skip {rest : Text} (h : IsIdentifier (Text.skip '@' rest)) :
    BareName ('@' :: rest) := by
  cases rest with
  | nil => exact h.elim
  | cons c name =>
    by_cases hat : c = '@'
    · subst hat
      exact .classVariable (by simpa [Text.skip] using h)
    · exact .instanceVariable (by simpa [Text.skip, hat] using h)

/-- A suffix is allowed after a name that no capital begins. -/
theorem bareName_of_scanIdentifier {c : Char} {rest : Text}
    (h : scanIdentifier (!c.isUpper) (c :: rest) = some []) : BareName (c :: rest) := by
  rcases scanIdentifier_eq_some_nil_iff.mp h with hname | ⟨hsuffix, name, mark, hname, hmark, htext⟩
  · exact .identifier hname
  · rw [htext]
    refine .marked hname ?_ hmark
    cases name with
    | nil => exact hname.elim
    | cons d tail =>
      obtain ⟨rfl, -⟩ := List.cons.inj htext
      simpa using hsuffix

/-- Whatever the scanner consumes to its end is in the language. -/
theorem bareName_of_scanBare {text : Text} (h : scanBare text = some []) : BareName text := by
  unfold scanBare at h
  split at h
  case h_2 rest =>
    split at h
    · next hspecial => exact bareName_of_isSpecialGlobal hspecial
    · exact .namedGlobal (scanIdentifier_false_eq_some_nil_iff.mp h)
  case h_3 rest => exact bareName_of_skip (scanIdentifier_false_eq_some_nil_iff.mp h)
  case h_28 first rest => exact bareName_of_scanIdentifier h
  -- The operators that one more character may follow.
  case h_5 | h_8 | h_10 | h_12 | h_13 | h_14 | h_22 =>
    rcases skip_eq_nil_iff.mp (Option.some.inj h) with rfl | rfl <;>
      exact .operator (by decide)
  -- The operators that end where they are recognised.
  case h_4 | h_6 | h_7 | h_9 | h_15 | h_16 | h_17 | h_18 | h_19 | h_20 | h_21 | h_25 | h_26 =>
    obtain rfl := Option.some.inj h
    exact .operator (by decide)
  case h_24 => exact .operator (by decide)
  -- What begins like an operator and is none.
  case h_1 | h_11 | h_23 | h_27 => cases h

/-- The scanner consumes every text of the language to its end. -/
theorem scanBare_of_bareName {text : Text} (h : BareName text) : scanBare text = some [] := by
  cases h with
  | operator hoperator =>
    have hall : ∀ text ∈ methodOperators, scanBare text = some [] := by decide
    exact hall text hoperator
  | @markedGlobal mark hmark =>
    have hspecial : isSpecialGlobal [mark] = true := by
      have hmem : mark ∈ specialGlobals := hmark
      simp [isSpecialGlobal, hmem]
    rw [scanBare, if_pos hspecial]
  | optionGlobal hlength hoption =>
    rw [scanBare, if_pos (isSpecialGlobal_option hlength hoption)]
  | numberedGlobal hne hdigits hzero =>
    rw [scanBare, if_pos (isSpecialGlobal_digits hne hdigits hzero)]
  | namedGlobal hname =>
    rw [scanBare]
    split
    · rfl
    · exact scanIdentifier_false_eq_some_nil_iff.mpr hname
  | @instanceVariable name hname =>
    have hskip : Text.skip '@' name = name := by
      cases name with
      | nil => rfl
      | cons c rest =>
        have hat : c ≠ '@' := by
          rintro rfl
          exact absurd hname.1 (by decide)
        simp [Text.skip, hat]
    rw [scanBare, hskip]
    exact scanIdentifier_false_eq_some_nil_iff.mpr hname
  | classVariable hname =>
    rw [scanBare, Text.skip, if_pos rfl]
    exact scanIdentifier_false_eq_some_nil_iff.mpr hname
  | identifier hname =>
    cases text with
    | nil => exact hname.elim
    | cons c rest =>
      rw [scanBare_of_begins hname.1]
      exact scanIdentifier_eq_some_nil_iff.mpr (.inl hname)
  | @marked name mark hname hcapital hmark =>
    cases name with
    | nil => exact hname.elim
    | cons c rest =>
      rw [List.cons_append, scanBare_of_begins hname.1]
      have hsuffix : (!c.isUpper) = true := by simpa using hcapital c rfl
      exact scanIdentifier_eq_some_nil_iff.mpr (.inr ⟨hsuffix, c :: rest, mark, hname, hmark, rfl⟩)

/-- A text is written without quotes exactly when it is printable and in the language. -/
theorem isBare_iff {text : Text} :
    isBare text = true ↔ (∀ c ∈ text, IsPrintable c) ∧ BareName text := by
  have hprintable : text.all isPrintable = true ↔ ∀ c ∈ text, IsPrintable c := by
    simp only [List.all_eq_true, isPrintable_iff]
  have hname : scanBare text = some [] ↔ BareName text :=
    ⟨bareName_of_scanBare, scanBare_of_bareName⟩
  rw [isBare, Bool.and_eq_true, hprintable, beq_iff_eq, hname]

/-- Only the capitals of ASCII forbid a mark. -/
example : isBare ['É', '='] = true ∧ isBare ['E', '='] = false := by decide

end Literal

end Interning
