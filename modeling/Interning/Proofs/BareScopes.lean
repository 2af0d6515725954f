import Interning.Proofs.BareNames
import Interning.Proofs.ScopeRule

/-!
# The scopes of bare names

The literal printer reads a name character by character to see whether it needs quotes. The
classifier decides the scope of the same name from a table of operators and from scans of the whole
text. Neither asks the other, and `BareByScope` says what they should have to do with each other:
which names of each scope are written bare. It leaves out the global variables, about which the two
have different rules, and `isBare_iff_bareByScope` proves the rest.

What the two have in common is the identifier. `isIdentifier_iff` says that the identifiers of the
printer are the nonempty tails of the classifier, and `isIdentifier_iff_classify` that they are the
nonempty local names and constants. No operator begins like an identifier
(`not_token_of_begins`), so an identifier with a mark is a setter if the mark is the sign of
setters, and junk otherwise (`classify_append_mark`).
-/

set_option autoImplicit false
set_option relaxedAutoImplicit false

namespace Interning

/-! ### Names that are bare by their scope -/

/-- A local name or a constant that begins with no ASCII capital. -/
structure TakesMark (name : Text) : Prop where
  classify_eq : classify name = .localName ∨ classify name = .constant
  isUpper_head : ∀ c ∈ name.head?, c.isUpper = false

/-- The operators that are no methods: they separate scopes, and make ranges. -/
def separators : List Text :=
  [[':', ':'], ['.', '.'], ['.', '.', '.']]

/-- The names that are written without quotes, by their scopes. -/
inductive BareByScope : Text → Prop
  | word {text : Text} (hscope : classify text = .localName ∨ classify text = .constant)
      (hne : text ≠ []) : BareByScope text
  | instanceVariable {text : Text} (hscope : classify text = .instanceVariable)
      (hne : text ≠ ['@']) : BareByScope text
  | classVariable {text : Text} (hscope : classify text = .classVariable)
      (hne : text ≠ ['@', '@']) : BareByScope text
  | operator {text : Text} (hscope : classify text = .operator) (hmethod : text ∉ separators) :
      BareByScope text
  | setter {text : Text} (hscope : classify text = .setter) (hbase : TakesMark text.dropLast) :
      BareByScope text
  | marked {base : Text} {mark : Char} (hscope : classify (base ++ [mark]) = .junk)
      (hmark : mark = '!' ∨ mark = '?') (hne : base ≠ []) (hbase : TakesMark base) :
      BareByScope (base ++ [mark])

variable {text base name rest : Text} {c mark : Char}

/-! ### Identifiers and their scopes -/

theorem toNat_of_isAlpha (h : c.isAlpha = true) :
    65 ≤ c.toNat ∧ c.toNat ≤ 90 ∨ 97 ≤ c.toNat ∧ c.toNat ≤ 122 := by
  have hletter : (decide (65 ≤ c.val ∧ c.val ≤ 90) || 97 ≤ c.val && c.val ≤ 122) = true := h
  simpa [UInt32.le_iff_toNat_le] using hletter

/-- No digit begins an identifier. -/
theorem isDigit_eq_false_of_begins (h : BeginsIdentifier c) : c.isDigit = false := by
  by_contra hdigit
  have hrange := toNat_of_isDigit (by simpa using hdigit)
  rcases h with rfl | halpha | hbeyond
  · exact hdigit (by decide)
  · have hletter := toNat_of_isAlpha halpha
    omega
  · omega

/-- What begins an identifier is what continues one and is no digit. -/
theorem beginsIdentifier_iff :
    BeginsIdentifier c ↔ c.isDigit = false ∧ ContinuesIdentifier c := by
  constructor
  · intro h
    refine ⟨isDigit_eq_false_of_begins h, isIdentChar_iff.mp ?_⟩
    exact isIdentChar_of_isIdentStart (isIdentStart_iff.mpr h)
  · rintro ⟨hdigit, hcontinues | hother⟩
    · rw [Char.isAlphanum, hdigit, Bool.or_false] at hcontinues
      exact .inr (.inl hcontinues)
    · exact hother.imp_right .inr

/-- The identifiers are the nonempty texts that a scan consumes whole. -/
theorem isIdentifier_iff : IsIdentifier text ↔ text ≠ [] ∧ IsTail text := by
  cases text with
  | nil => simp [IsIdentifier]
  | cons c rest =>
    simp only [IsIdentifier, IsTail, isIdentChar_iff, beginsIdentifier_iff, List.forall_mem_cons,
      ne_eq, reduceCtorEq, not_false_eq_true, true_and, and_assoc]

/-- No operator begins like an identifier. -/
theorem not_token_of_begins (h : BeginsIdentifier c) (rest : Text) :
    ¬ ∃ token ∈ Token.all, token.text = c :: rest := by
  have hall : ∀ token ∈ Token.all, token.text.head?.any (decide <| BeginsIdentifier ·) = false := by
    decide
  rintro ⟨token, htoken, htext⟩
  simpa [htext, h] using hall token htoken

theorem isWord_of_begins (h : BeginsIdentifier c) (rest : Text) : IsWord (c :: rest) := by
  have hsigil : c ≠ '$' ∧ c ≠ '@' := by
    constructor <;>
    · rintro rfl
      exact absurd h (by decide)
  simpa [IsWord] using hsigil

/-- The scope of a text that begins like an identifier and does not end in the sign of setters. -/
theorem classify_of_begins (h : BeginsIdentifier c) (hlast : (c :: rest).getLast? ≠ some '=') :
    classify (c :: rest) =
      if IsTail (c :: rest) then
        if Unicode.isUppercase c then .constant else .localName
      else .junk :=
  classify_of_not_shape (isWord_of_begins h rest) (not_token_of_begins h rest)
    fun hshape ↦ hlast hshape.2.1

/-- The identifiers are the nonempty local names and constants. -/
theorem isIdentifier_iff_classify :
    IsIdentifier text ↔
      text ≠ [] ∧ (classify text = .localName ∨ classify text = .constant) := by
  constructor
  · intro h
    obtain ⟨hne, htail⟩ := isIdentifier_iff.mp h
    refine ⟨hne, ?_⟩
    cases text with
    | nil => exact absurd rfl hne
    | cons c rest =>
      have hlast : (c :: rest).getLast? ≠ some '=' := by
        intro hlast
        have hchar := htail.2 '=' (List.mem_of_getLast? hlast)
        exact absurd hchar (by decide)
      rw [classify_of_begins h.1 hlast, if_pos htail]
      by_cases hupper : Unicode.isUppercase c = true <;> simp [hupper]
  · rintro ⟨hne, hscope⟩
    exact isIdentifier_iff.mpr ⟨hne, (isWord_and_isTail_of_classify hscope).2⟩

/-! ### Names with a mark -/

/-- An identifier with a mark is a setter when the mark is the sign of setters, and junk
otherwise. -/
theorem classify_append_mark (h : IsIdentifier base) (hmark : mark ∈ ['!', '?', '=']) :
    classify (base ++ [mark]) = if mark = '=' then .setter else .junk := by
  obtain ⟨hne, hscope⟩ := isIdentifier_iff_classify.mp h
  by_cases hsign : mark = '='
  · subst hsign
    exact classify_append_sign_eq_setter hne hscope
  · rw [if_neg hsign]
    have htail : ¬ IsTail (base ++ [mark]) := by
      intro htail
      have hall : ['!', '?', '='].any isIdentChar = false := by decide
      cases base with
      | nil => exact hne rfl
      | cons c rest =>
        have hchar := htail.2 mark (by simp)
        exact List.any_eq_false.mp hall mark hmark hchar
    cases base with
    | nil => exact absurd rfl hne
    | cons c rest =>
      have hlast : (c :: (rest ++ [mark])).getLast? ≠ some '=' := by
        simpa [List.getLast?_cons] using hsign
      rw [List.cons_append] at htail ⊢
      rw [classify_of_begins h.1 hlast, if_neg htail]

theorem TakesMark.bareName (h : TakesMark base) (hne : base ≠ [])
    (hmark : mark ∈ ['!', '?', '=']) : BareName (base ++ [mark]) :=
  .marked (isIdentifier_iff_classify.mpr ⟨hne, h.classify_eq⟩) h.isUpper_head hmark

/-! ### Variables -/

theorem classify_class (name : Text) :
    classify ('@' :: '@' :: name) = if IsTail name then .classVariable else .junk :=
  scan_eq name .classVariable

theorem classify_instance (h : name.head? ≠ some '@') :
    classify ('@' :: name) = if IsTail name then .instanceVariable else .junk := by
  rw [← scan_eq]
  cases name with
  | nil => rfl
  | cons c rest =>
    have hat : c ≠ '@' := by simpa using h
    simp [classify, hat]

/-- A text begins with the sigil of class variables or of instance variables, or its scope is
neither of theirs. -/
theorem variable_cases (text : Text) :
    (∃ name, text = '@' :: '@' :: name) ∨ (∃ name, text = '@' :: name ∧ name.head? ≠ some '@') ∨
      classify text ≠ .instanceVariable ∧ classify text ≠ .classVariable := by
  obtain ⟨name, rfl⟩ | ⟨name, rfl⟩ | hword := sigil_cases text
  · exact .inr (.inr ⟨by simp [classify], by simp [classify]⟩)
  · by_cases hat : name.head? = some '@'
    · obtain ⟨rest, rfl⟩ := List.head?_eq_some_iff.mp hat
      exact .inl ⟨rest, rfl⟩
    · exact .inr (.inl ⟨name, rfl, hat⟩)
  · exact .inr (.inr (classify_of_isWord_ne hword).2)

theorem exists_tail_of_classify_eq_instanceVariable (h : classify text = .instanceVariable) :
    ∃ name, text = '@' :: name ∧ IsTail name := by
  obtain ⟨name, rfl⟩ | ⟨name, rfl, hat⟩ | hother := variable_cases text
  · rw [classify_class] at h
    split at h <;> simp at h
  · rw [classify_instance hat] at h
    exact ⟨name, rfl, by_contra fun htail ↦ by simp [htail] at h⟩
  · exact absurd h hother.1

theorem exists_tail_of_classify_eq_classVariable (h : classify text = .classVariable) :
    ∃ name, text = '@' :: '@' :: name ∧ IsTail name := by
  obtain ⟨name, rfl⟩ | ⟨name, rfl, hat⟩ | hother := variable_cases text
  · rw [classify_class] at h
    exact ⟨name, rfl, by_contra fun htail ↦ by simp [htail] at h⟩
  · rw [classify_instance hat] at h
    split at h <;> simp at h
  · exact absurd h hother.2

/-! ### Operators -/

/-- The operators that are methods are those that do not separate. -/
theorem mem_methodOperators_iff :
    text ∈ methodOperators ↔ classify text = .operator ∧ text ∉ separators := by
  constructor
  · have hall : ∀ text ∈ methodOperators, classify text = .operator ∧ text ∉ separators := by
      decide
    exact hall text
  · rintro ⟨hscope, hmethod⟩
    obtain ⟨token, htoken, rfl⟩ := classify_eq_operator_iff.mp hscope
    have hall : ∀ token ∈ Token.all, token.text ∉ separators → token.text ∈ methodOperators := by
      decide
    exact hall token htoken hmethod

/-! ### The printer and the classifier agree -/

theorem bareName_of_bareByScope (h : BareByScope text) : BareName text := by
  cases h with
  | word hscope hne => exact .identifier (isIdentifier_iff_classify.mpr ⟨hne, hscope⟩)
  | instanceVariable hscope hne =>
    obtain ⟨name, rfl, htail⟩ := exists_tail_of_classify_eq_instanceVariable hscope
    exact .instanceVariable (isIdentifier_iff.mpr ⟨by simpa using hne, htail⟩)
  | classVariable hscope hne =>
    obtain ⟨name, rfl, htail⟩ := exists_tail_of_classify_eq_classVariable hscope
    exact .classVariable (isIdentifier_iff.mpr ⟨by simpa using hne, htail⟩)
  | operator hscope hmethod => exact .operator (mem_methodOperators_iff.mpr ⟨hscope, hmethod⟩)
  | setter hscope hbase =>
    obtain ⟨base, rfl, hne, -⟩ := exists_base_of_classify_eq_setter hscope
    rw [List.dropLast_concat] at hbase
    exact hbase.bareName hne (by simp)
  | marked _ hmark hne hbase =>
    exact hbase.bareName hne (by rcases hmark with rfl | rfl <;> simp)

theorem bareByScope_of_bareName (hdollar : text.head? ≠ some '$') (h : BareName text) :
    BareByScope text := by
  cases h with
  | operator h =>
    obtain ⟨hscope, hmethod⟩ := mem_methodOperators_iff.mp h
    exact .operator hscope hmethod
  | markedGlobal | optionGlobal | numberedGlobal | namedGlobal => exact absurd rfl hdollar
  | @instanceVariable name h =>
    obtain ⟨hne, htail⟩ := isIdentifier_iff.mp h
    have hat : name.head? ≠ some '@' := by
      cases name with
      | nil => simp
      | cons c rest => exact (isWord_of_begins h.1 rest).2
    exact .instanceVariable (by rw [classify_instance hat, if_pos htail]) (by simpa using hne)
  | classVariable h =>
    obtain ⟨hne, htail⟩ := isIdentifier_iff.mp h
    exact .classVariable (by rw [classify_class, if_pos htail]) (by simpa using hne)
  | identifier h =>
    obtain ⟨hne, hscope⟩ := isIdentifier_iff_classify.mp h
    exact .word hscope hne
  | @marked base mark h hcapital hmark =>
    obtain ⟨hne, hscope⟩ := isIdentifier_iff_classify.mp h
    have hbase : TakesMark base := ⟨hscope, hcapital⟩
    have hmarked := classify_append_mark h hmark
    by_cases hsign : mark = '='
    · rw [if_pos hsign] at hmarked
      exact .setter hmarked (by rwa [List.dropLast_concat])
    · rw [if_neg hsign] at hmarked
      exact .marked hmarked (by simpa [hsign] using hmark) hne hbase

/-- A printable name that begins with no dollar sign is written without quotes exactly when its
scope says so. -/
theorem isBare_iff_bareByScope (hdollar : text.head? ≠ some '$')
    (hprintable : ∀ c ∈ text, IsPrintable c) :
    Literal.isBare text = true ↔ BareByScope text := by
  rw [Literal.isBare_iff]
  constructor
  · rintro ⟨-, hname⟩
    exact bareByScope_of_bareName hdollar hname
  · intro hscope
    exact ⟨hprintable, bareName_of_bareByScope hscope⟩

/-- A capital beyond ASCII does not keep a mark from its name. -/
theorem isBare_marked_capital : ['É', 'a', '!'].head? ≠ some '$' ∧
    (∀ c ∈ ['É', 'a', '!'], IsPrintable c) ∧ Literal.isBare ['É', 'a', '!'] = true ∧
      classify ['É', 'a'] = .constant ∧ classify ['É', 'a', '!'] = .junk := by
  have hprintable : ∀ c ∈ ['É', 'a', '!'], IsPrintable c := by
    simp [IsPrintable]
  have hbase : classify ['É', 'a'] = .constant := by decide
  have hscope : classify (['É', 'a'] ++ ['!']) = .junk := by decide
  have hbare : BareByScope (['É', 'a'] ++ ['!']) :=
    .marked hscope (.inl rfl) (by simp) ⟨.inr hbase, by rintro _ ⟨⟩; decide⟩
  exact ⟨by simp, hprintable, (isBare_iff_bareByScope (by simp) hprintable).mpr hbare, hbase,
    hscope⟩

end Interning
