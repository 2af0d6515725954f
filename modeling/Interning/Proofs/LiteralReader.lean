import Interning.Numeral
import Interning.Proofs.BareNames
import Mathlib.Tactic.Common

/-!
# Reading literals back

`Literal.literal` writes a name bare or between quotes. `Literal.read?` is its reader: it takes the
colon off and returns the rest as it is, unless the rest begins with a double quote; then it reads
one character or escape after the other (`Literal.readCharacter?`) up to the closing quote. The
reader refuses a quote without a backslash before the end, a number sign without a backslash before
a character that opens an interpolation, and every character that is not printable.

`Literal.readCharacter?_escape` reads one escaped character back, whatever follows it, as long as
nothing follows that opens an interpolation where the writer saw none; `Literal.read?_literal`
reads a whole literal back. In the other direction, what the reader accepts between quotes is a
`Literal.Body`, and a body is sealed (`Literal.Sealed`): under the usual reading of backslashes
(`Literal.endsInEscape`), it has one closing quote and that is its last character, and it opens no
interpolation. `Literal.literal_uniquely_readable` puts both directions together.
-/

set_option autoImplicit false
set_option relaxedAutoImplicit false

namespace Interning.Literal

/-! ### The reader -/

/-- The characters that a backslash and a letter or sign write. -/
def namedEscapes : List (Char × Char) :=
  [('"', '"'), ('\\', '\\'), ('#', '#'), ('n', '\n'), ('r', '\r'), ('t', '\t'), ('f', '\x0c'),
    ('v', '\x0b'), ('b', '\x08'), ('a', '\x07'), ('e', '\x1b')]

/-- The character with a code point of four hexadecimal digits. -/
def charOfHex? (a b c d : Char) : Option Char :=
  match Numeral.hexValue? a, Numeral.hexValue? b, Numeral.hexValue? c, Numeral.hexValue? d with
  | some p, some q, some r, some s =>
    let code := ((p * 16 + q) * 16 + r) * 16 + s
    if code.isValidChar then some (Char.ofNat code) else none
  | _, _, _, _ => none

/-- Whether a character between quotes stands for itself, given the character that follows. -/
def standsForItself (c : Char) (next : Option Char) : Bool :=
  isPrintable c && c != '"' && c != '\\' && !(c == '#' && next.any opensInterpolation)

/-- Reads what follows a backslash and returns the character that the escape writes. -/
def readEscape? : Text → Option (Char × Text)
  | [] => none
  | mark :: rest =>
    if mark = 'u' then
      match rest with
      | a :: b :: c :: d :: after => (charOfHex? a b c d).map (·, after)
      | _ => none
    else (namedEscapes.lookup mark).map (·, rest)

/-- Reads a character, or the escape that writes one, and returns what follows. -/
def readCharacter? : Text → Option (Char × Text)
  | [] => none
  | c :: rest =>
    if c = '\\' then readEscape? rest
    else if standsForItself c rest.head? then some (c, rest)
    else none

theorem length_lt_of_readEscape? {text rest : Text} {c : Char}
    (h : readEscape? text = some (c, rest)) : rest.length < text.length := by
  unfold readEscape? at h
  split at h
  · cases h
  · split at h
    · split at h
      · obtain ⟨_, _, h⟩ := Option.map_eq_some_iff.mp h
        cases h
        simp only [List.length_cons]
        omega
      · cases h
    · obtain ⟨_, _, h⟩ := Option.map_eq_some_iff.mp h
      cases h
      simp

theorem length_lt_of_readCharacter? {text rest : Text} {c : Char}
    (h : readCharacter? text = some (c, rest)) : rest.length < text.length := by
  unfold readCharacter? at h
  split at h
  · cases h
  · split at h
    · have hescape := length_lt_of_readEscape? h
      simp only [List.length_cons]
      omega
    · split at h
      · cases h
        simp
      · cases h

/-- Reads the characters of a quoted literal after its opening quote. -/
def readBody? (text : Text) : Option Text :=
  if text = ['"'] then some []
  else
    match _h : readCharacter? text with
    | some (c, rest) => (readBody? rest).map (c :: ·)
    | none => none
termination_by text.length
decreasing_by exact length_lt_of_readCharacter? _h

/-- The name that a literal writes. -/
def read? : Text → Option Text
  | ':' :: '"' :: body => readBody? body
  | ':' :: name => some name
  | _ => none

/-! ### What an escape writes -/

/-- Only a number sign is written differently before different characters. -/
theorem escape_eq_of_ne {c : Char} (h : c ≠ '#') (next : Option Char) :
    escape c next = escape c none := by
  simp [escape, h]

theorem escape_named {mark c : Char} (h : (mark, c) ∈ namedEscapes) (hsign : c ≠ '#')
    (next : Option Char) : escape c next = ['\\', mark] := by
  have hall : ∀ pair ∈ namedEscapes, pair.2 ≠ '#' → escape pair.2 none = ['\\', pair.1] := by
    decide
  rw [escape_eq_of_ne hsign, hall (mark, c) h hsign]

theorem escape_sign (next : Option Char) :
    escape '#' next = if next.any opensInterpolation then ['\\', '#'] else ['#'] := by
  cases h : next.any opensInterpolation <;> simp [escape, h, isPrintable]

theorem escape_unnamed {c : Char} (h : ∀ pair ∈ namedEscapes, c ≠ pair.2) (next : Option Char) :
    escape c next =
      if isPrintable c then [c] else '\\' :: 'u' :: Numeral.fourHexDigits c.toNat := by
  simp only [namedEscapes, List.forall_mem_cons] at h
  simp [escape, h]

/-- A character is written by a backslash and a mark, as itself, or by its code point when it is
a control. -/
theorem escape_cases (c : Char) (next : Option Char) :
    (∃ mark, (mark, c) ∈ namedEscapes ∧ escape c next = ['\\', mark]) ∨
      (standsForItself c next = true ∧ escape c next = [c]) ∨
        (c.toNat < 160 ∧ escape c next = '\\' :: 'u' :: Numeral.fourHexDigits c.toNat) := by
  by_cases hnamed : ∃ mark, (mark, c) ∈ namedEscapes
  · obtain ⟨mark, hmark⟩ := hnamed
    by_cases hsign : c = '#'
    · subst hsign
      rw [escape_sign]
      cases hnext : next.any opensInterpolation with
      | true => exact .inl ⟨'#', by decide, rfl⟩
      | false => exact .inr (.inl ⟨by simp [standsForItself, hnext, isPrintable], rfl⟩)
    · exact .inl ⟨mark, hmark, escape_named hmark hsign next⟩
  · have hne : ∀ pair ∈ namedEscapes, c ≠ pair.2 := by
      rintro pair hpair rfl
      exact hnamed ⟨pair.1, hpair⟩
    rw [escape_unnamed hne]
    cases hprintable : isPrintable c with
    | true =>
      refine .inr (.inl ⟨?_, rfl⟩)
      simp only [namedEscapes, List.forall_mem_cons] at hne
      simp [standsForItself, hprintable, hne]
    | false =>
      refine .inr (.inr ⟨?_, rfl⟩)
      have hcontrol : ¬IsPrintable c := by
        rw [← isPrintable_iff, hprintable]
        decide
      unfold IsPrintable at hcontrol
      omega

/-! ### Reading what was written -/

theorem readCharacter?_named {mark c : Char} (h : (mark, c) ∈ namedEscapes) (rest : Text) :
    readCharacter? ('\\' :: mark :: rest) = some (c, rest) := by
  have hall : ∀ pair ∈ namedEscapes,
      pair.1 ≠ 'u' ∧ namedEscapes.lookup pair.1 = some pair.2 := by decide
  obtain ⟨hne, hlookup⟩ := hall (mark, c) h
  simp only [readCharacter?, readEscape?, if_true, if_neg hne, hlookup, Option.map_some]

theorem hexValue?_capitalHexDigit {n : Nat} (h : n < 16) :
    Numeral.hexValue? (Numeral.capitalHexDigit n) = some n := by
  have hall : ∀ n < 16, Numeral.hexValue? (Numeral.capitalHexDigit n) = some n := by decide
  exact hall n h

theorem readCharacter?_fourHexDigits {c : Char} (h : c.toNat < 65536) (rest : Text) :
    readCharacter? ('\\' :: 'u' :: Numeral.fourHexDigits c.toNat ++ rest) = some (c, rest) := by
  have hdigit (n : Nat) :
      Numeral.hexValue? (Numeral.capitalHexDigit (n % 16)) = some (n % 16) :=
    hexValue?_capitalHexDigit (Nat.mod_lt n (by decide))
  have hcode : ((c.toNat / 4096 % 16 * 16 + c.toNat / 256 % 16) * 16 + c.toNat / 16 % 16) * 16 +
      c.toNat % 16 = c.toNat := by omega
  have hvalid : c.toNat.isValidChar := c.valid
  simp only [Numeral.fourHexDigits, List.cons_append, List.nil_append, readCharacter?, readEscape?,
    charOfHex?, hdigit, hcode, if_pos hvalid, Char.ofNat_toNat, Option.map_some, if_true]

theorem ne_backslash_of_standsForItself {c : Char} {next : Option Char}
    (h : standsForItself c next = true) : c ≠ '\\' := by
  rintro rfl
  simp [standsForItself] at h

theorem readCharacter?_of_standsForItself {c : Char} {rest : Text}
    (h : standsForItself c rest.head? = true) : readCharacter? (c :: rest) = some (c, rest) := by
  rw [readCharacter?, if_neg (ne_backslash_of_standsForItself h), if_pos h]

/-- A character stands for itself before every character that opens no more interpolations. -/
theorem standsForItself_of_imp {c : Char} {next other : Option Char}
    (h : standsForItself c next = true)
    (himp : other.any opensInterpolation = true → next.any opensInterpolation = true) :
    standsForItself c other = true := by
  simp only [standsForItself, Bool.and_eq_true, Bool.not_eq_true', Bool.and_eq_false_iff] at h ⊢
  refine ⟨h.1, h.2.imp_right fun hnext ↦ ?_⟩
  rw [Bool.eq_false_iff] at hnext ⊢
  exact mt himp hnext

/-- An escaped character is read back, unless an interpolation opens after it that the writer
did not see. -/
theorem readCharacter?_escape (c : Char) (next : Option Char) (rest : Text)
    (h : rest.head?.any opensInterpolation = true → next.any opensInterpolation = true) :
    readCharacter? (escape c next ++ rest) = some (c, rest) := by
  rcases escape_cases c next with ⟨mark, hmark, heq⟩ | ⟨hself, heq⟩ | ⟨hlow, heq⟩ <;> rw [heq]
  · exact readCharacter?_named hmark rest
  · exact readCharacter?_of_standsForItself (standsForItself_of_imp hself h)
  · exact readCharacter?_fourHexDigits (by omega) rest

theorem readBody?_of_readCharacter? {text rest : Text} {c : Char}
    (h : readCharacter? text = some (c, rest)) :
    readBody? text = (readBody? rest).map (c :: ·) := by
  have hne : text ≠ ['"'] := by
    rintro rfl
    have hquote : readCharacter? ['"'] = none := by decide
    rw [hquote] at h
    cases h
  rw [readBody?, if_neg hne]
  split
  · next heq =>
    rw [h] at heq
    cases heq
    rfl
  · next heq =>
    rw [h] at heq
    cases heq

/-- Escaping hides an opening character behind a backslash, or leaves it first. -/
theorem head?_escapeAll_opens {text : Text}
    (h : (escapeAll text ++ ['"']).head?.any opensInterpolation = true) :
    text.head?.any opensInterpolation = true := by
  cases text with
  | nil => exact absurd h (by decide)
  | cons c rest =>
    rw [escapeAll] at h
    rcases escape_cases c rest.head? with ⟨mark, -, heq⟩ | ⟨-, heq⟩ | ⟨-, heq⟩ <;> rw [heq] at h
    · exact absurd h (by simp [opensInterpolation])
    · exact h
    · exact absurd h (by simp [opensInterpolation])

theorem readBody?_escapeAll (text : Text) : readBody? (escapeAll text ++ ['"']) = some text := by
  induction text with
  | nil => simp [escapeAll, readBody?]
  | cons c rest ih =>
    have hread := readCharacter?_escape c rest.head? (escapeAll rest ++ ['"'])
      head?_escapeAll_opens
    rw [escapeAll, List.append_assoc, readBody?_of_readCharacter? hread, ih, Option.map_some]

/-- A bare name does not begin with a quote. -/
theorem head?_ne_quote_of_isBare {text : Text} (h : isBare text = true) :
    text.head? ≠ some '"' := by
  intro hquote
  obtain ⟨rest, rfl⟩ := List.head?_eq_some_iff.mp hquote
  have hscan : scanBare ('"' :: rest) = none := by
    simp [scanBare, scanIdentifier, isIdentStart, isAscii]
  simp [isBare, hscan] at h

theorem read?_of_head?_ne {name : Text} (h : name.head? ≠ some '"') :
    read? (':' :: name) = some name := by
  unfold read?
  split <;> simp_all

theorem read?_literal (text : Text) : read? (literal text) = some text := by
  unfold literal
  split
  · next hbare => exact read?_of_head?_ne (head?_ne_quote_of_isBare hbare)
  · exact readBody?_escapeAll text

/-! ### What the reader accepts -/

/-- What may follow the opening quote of a literal: characters that stand for themselves,
backslashes each with the character behind it, and the closing quote. -/
inductive Body : Text → Prop
  | close : Body ['"']
  | character {c : Char} {rest : Text} (h : standsForItself c rest.head? = true)
      (hrest : Body rest) : Body (c :: rest)
  | escaped {mark : Char} {rest : Text} (h : isPrintable mark = true) (hrest : Body rest) :
      Body ('\\' :: mark :: rest)

theorem toNat_of_hexValue? {c : Char} {n : Nat} (h : Numeral.hexValue? c = some n) :
    (48 ≤ c.toNat ∧ c.toNat ≤ 57) ∨ (65 ≤ c.toNat ∧ c.toNat ≤ 70) ∨
      (97 ≤ c.toNat ∧ c.toNat ≤ 102) := by
  unfold Numeral.hexValue? at h
  split at h
  · next hdigit =>
    simp only [Char.isDigit, Bool.and_eq_true, decide_eq_true_eq] at hdigit
    exact .inl hdigit
  · split at h
    · next hsmall =>
      simp only [Bool.and_eq_true, decide_eq_true_eq] at hsmall
      exact .inr (.inr hsmall)
    · split at h
      · next hcapital =>
        simp only [Bool.and_eq_true, decide_eq_true_eq] at hcapital
        exact .inr (.inl hcapital)
      · cases h

theorem standsForItself_of_hexValue? {c : Char} {n : Nat} (h : Numeral.hexValue? c = some n)
    (next : Option Char) : standsForItself c next = true := by
  have hrange := toNat_of_hexValue? h
  have hquote : c ≠ '"' := by
    rintro rfl
    exact absurd hrange (by decide)
  have hbackslash : c ≠ '\\' := by
    rintro rfl
    exact absurd hrange (by decide)
  have hsign : c ≠ '#' := by
    rintro rfl
    exact absurd hrange (by decide)
  have hprintable : isPrintable c = true := isPrintable_iff.mpr (.inl (by omega))
  simp [standsForItself, hquote, hbackslash, hsign, hprintable]

/-- A hexadecimal digit stands for itself. -/
theorem Body.hexDigit {c : Char} {n : Nat} {rest : Text} (h : Numeral.hexValue? c = some n)
    (hrest : Body rest) : Body (c :: rest) :=
  .character (standsForItself_of_hexValue? h _) hrest

theorem body_of_readEscape? {text rest : Text} {c : Char}
    (h : readEscape? text = some (c, rest)) (hrest : Body rest) : Body ('\\' :: text) := by
  unfold readEscape? at h
  split at h
  · cases h
  · next mark text =>
    split at h
    · next hmark =>
      subst hmark
      split at h
      · obtain ⟨_, hcode, h⟩ := Option.map_eq_some_iff.mp h
        cases h
        unfold charOfHex? at hcode
        split at hcode
        · next hp hq hr hs =>
          have hdigits := Body.hexDigit hp (.hexDigit hq (.hexDigit hr (.hexDigit hs hrest)))
          exact .escaped (by decide) hdigits
        · cases hcode
      · cases h
    · obtain ⟨_, hlookup, h⟩ := Option.map_eq_some_iff.mp h
      cases h
      have hall : ∀ pair ∈ namedEscapes, isPrintable pair.1 = true := by decide
      obtain ⟨before, after, hnamed, -⟩ := List.lookup_eq_some_iff.mp hlookup
      exact .escaped (hall (mark, c) (by simp [hnamed])) hrest

theorem body_of_readCharacter? {text rest : Text} {c : Char}
    (h : readCharacter? text = some (c, rest)) (hrest : Body rest) : Body text := by
  unfold readCharacter? at h
  split at h
  · cases h
  · split at h
    · next hbackslash =>
      subst hbackslash
      exact body_of_readEscape? h hrest
    · split at h
      · next hself =>
        cases h
        exact .character hself hrest
      · cases h

theorem body_of_readBody? {text name : Text} (h : readBody? text = some name) : Body text := by
  fun_induction readBody? text generalizing name with
  | case1 => exact .close
  | case2 text _ c rest hread ih =>
    obtain ⟨name, hname, -⟩ := Option.map_eq_some_iff.mp h
    exact body_of_readCharacter? hread (ih hname)
  | case3 => cases h

/-! ### Sealed literals -/

/-- Whether a text ends in a backslash that escapes the next character: a backslash does,
unless it is escaped itself. -/
def endsInEscape (text : Text) : Bool :=
  text.foldl (fun escaped c ↦ !escaped && c == '\\') false

theorem endsInEscape_cons {c : Char} (h : c ≠ '\\') (text : Text) :
    endsInEscape (c :: text) = endsInEscape text := by
  have hfirst : (c == '\\') = false := by simpa using h
  simp [endsInEscape, hfirst]

theorem endsInEscape_escaped (mark : Char) (text : Text) :
    endsInEscape ('\\' :: mark :: text) = endsInEscape text := by
  simp [endsInEscape]

/-- What follows an opening quote ends at its first quote that is not escaped, opens no
interpolation on the way, and shows every character. -/
structure Sealed (body : Text) : Prop where
  closes : ∃ inner, body = inner ++ ['"'] ∧ endsInEscape inner = false
  quote_last : ∀ before after, body = before ++ '"' :: after → endsInEscape before = false →
    after = []
  no_interpolation : ∀ before c after, body = before ++ '#' :: c :: after →
    opensInterpolation c = true → endsInEscape before = true
  printable : ∀ c ∈ body, isPrintable c = true

theorem sealed_close : Sealed ['"'] where
  closes := ⟨[], rfl, rfl⟩
  quote_last before after hbody _ := by
    cases before with
    | nil => exact (List.cons.inj hbody).2.symm
    | cons c before => simp at hbody
  no_interpolation before c after hbody _ := by
    cases before <;> simp at hbody
  printable := List.forall_mem_singleton.mpr (by decide)

theorem Sealed.character {c : Char} {rest : Text} (h : Sealed rest)
    (hself : standsForItself c rest.head? = true) : Sealed (c :: rest) := by
  have hcons := endsInEscape_cons (ne_backslash_of_standsForItself hself)
  constructor
  case closes =>
    obtain ⟨inner, rfl, hinner⟩ := h.closes
    exact ⟨c :: inner, rfl, (hcons inner).trans hinner⟩
  case quote_last =>
    intro before after hbody hbefore
    cases before with
    | nil =>
      obtain ⟨rfl, -⟩ := List.cons.inj hbody
      simp [standsForItself] at hself
    | cons d before =>
      obtain ⟨rfl, hrest⟩ := List.cons.inj hbody
      exact h.quote_last before after hrest ((hcons before).symm.trans hbefore)
  case no_interpolation =>
    intro before d after hbody hopens
    cases before with
    | nil =>
      obtain ⟨rfl, rfl⟩ := List.cons.inj hbody
      simp [standsForItself, hopens] at hself
    | cons e before =>
      obtain ⟨rfl, hrest⟩ := List.cons.inj hbody
      exact (hcons before).trans (h.no_interpolation before d after hrest hopens)
  case printable =>
    have hprintable : isPrintable c = true := by
      simp only [standsForItself, Bool.and_eq_true] at hself
      exact hself.1.1.1
    exact List.forall_mem_cons.mpr ⟨hprintable, h.printable⟩

theorem Sealed.escaped {mark : Char} {rest : Text} (h : Sealed rest)
    (hmark : isPrintable mark = true) : Sealed ('\\' :: mark :: rest) := by
  have hcons := endsInEscape_escaped mark
  constructor
  case closes =>
    obtain ⟨inner, rfl, hinner⟩ := h.closes
    exact ⟨'\\' :: mark :: inner, rfl, (hcons inner).trans hinner⟩
  case quote_last =>
    intro before after hbody hbefore
    match before with
    | [] => simp at hbody
    | [c] =>
      obtain ⟨rfl, -⟩ := List.cons.inj hbody
      exact absurd hbefore (by decide)
    | c :: d :: before =>
      simp only [List.cons_append, List.cons.injEq] at hbody
      obtain ⟨rfl, rfl, hrest⟩ := hbody
      exact h.quote_last before after hrest ((hcons before).symm.trans hbefore)
  case no_interpolation =>
    intro before c after hbody hopens
    match before with
    | [] => simp at hbody
    | [d] =>
      obtain ⟨rfl, -⟩ := List.cons.inj hbody
      rfl
    | d :: e :: before =>
      simp only [List.cons_append, List.cons.injEq] at hbody
      obtain ⟨rfl, rfl, hrest⟩ := hbody
      exact (hcons before).trans (h.no_interpolation before c after hrest hopens)
  case printable =>
    have hbackslash : isPrintable '\\' = true := by decide
    exact List.forall_mem_cons.mpr ⟨hbackslash, List.forall_mem_cons.mpr ⟨hmark, h.printable⟩⟩

theorem Body.sealed {body : Text} (h : Body body) : Sealed body := by
  induction h with
  | close => exact sealed_close
  | character hself _ ih => exact ih.character hself
  | escaped hmark _ ih => exact ih.escaped hmark

theorem sealed_escapeAll (text : Text) : Sealed (escapeAll text ++ ['"']) :=
  (body_of_readBody? (readBody?_escapeAll text)).sealed

theorem isPrintable_of_mem_literal {text : Text} {c : Char} (h : c ∈ literal text) :
    isPrintable c = true := by
  unfold literal at h
  rcases List.mem_cons.mp h with rfl | h
  · decide
  · split at h
    · next hbare =>
      simp only [isBare, Bool.and_eq_true, List.all_eq_true] at hbare
      exact hbare.1 c h
    · rw [quote, List.cons_append] at h
      rcases List.mem_cons.mp h with rfl | h
      · decide
      · exact (sealed_escapeAll text).printable c h

/-- Literals are read back, so no two names share one. What is read between quotes is sealed, and
so is the quoted form of every name that is not bare; and no literal shows a control. -/
theorem literal_uniquely_readable :
    (∀ text, read? (literal text) = some text) ∧ Function.Injective literal ∧
      (∀ body text, read? (':' :: '"' :: body) = some text → Sealed body) ∧
      (∀ text, isBare text = false → ∃ body, literal text = ':' :: '"' :: body ∧ Sealed body) ∧
      ∀ text, ∀ c ∈ literal text, isControl c = false := by
  refine ⟨read?_literal, ?_, ?_, ?_, ?_⟩
  · intro text other h
    have hread := read?_literal text
    rw [h, read?_literal] at hread
    exact (Option.some.inj hread).symm
  · intro body text h
    exact (body_of_readBody? h).sealed
  · intro text hbare
    refine ⟨escapeAll text ++ ['"'], ?_, sealed_escapeAll text⟩
    rw [literal, hbare, if_neg (by decide), quote]
    rfl
  · intro text c hc
    have hprintable := isPrintable_of_mem_literal hc
    rw [isPrintable_eq_not_isControl] at hprintable
    simpa using hprintable

end Interning.Literal
