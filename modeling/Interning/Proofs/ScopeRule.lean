import Interning.Classifier
import Mathlib.Data.List.Basic
import Mathlib.Data.List.Induction

/-!
# The recursive rule of the scopes

`classify` settles a name by walking its closing run of equals signs outward. The rule of the
scopes is recursive instead: it peels one sign at a time and looks at the operators first.
`scopeByRule` is that rule, with `IsTail` for the texts that a scan consumes whole, and
`classify_eq_scopeByRule` shows that both answer alike on every text.

The walk is followed in three steps. `stem_append_signs` cuts a text into its stem and its run,
and `stem_append_sign` shows that one more sign leaves the stem alone.
`classifyRun_succ` reads the walk from its last step, and with `classify_eq_classifySetter`,
by which a text that the setter rule passes over is still settled by the walk, this gives
`classify_append_sign`: the scope of a name with a closing sign from the scope of the name.

What the symbol table needs of the classifier follows from this one equation. A setter is a
nonempty name and a sign, and the name is local, constant or junk
(`exists_base_of_classify_eq_setter`); a nonempty local name or constant has a setter
(`classify_append_sign_eq_setter`); and the operators are the tokens
(`classify_eq_operator_iff`).
-/

set_option autoImplicit false
set_option relaxedAutoImplicit false

namespace Interning

/-! ### The rule -/

/-- A text that a scan consumes whole: it is empty, or a run of identifier characters of which
the first is no digit. -/
def IsTail : Text → Prop
  | [] => True
  | c :: rest => c.isDigit = false ∧ ∀ d ∈ c :: rest, isIdentChar d = true

instance : DecidablePred IsTail
  | [] => inferInstanceAs (Decidable True)
  -- The characters of the text are tried, not all characters.
  | c :: rest => @instDecidableAnd _ _ (inferInstanceAs (Decidable (c.isDigit = false)))
      (List.decidableBAll (fun d ↦ isIdentChar d = true) (c :: rest))

/-- The scope of a name that begins with the sigil of a variable, by what follows the sigil. -/
def scopeBySigil? : Text → Option Scope
  | '$' :: _ => some .globalVariable
  | '@' :: '@' :: name => some (if IsTail name then .classVariable else .junk)
  | '@' :: name => some (if IsTail name then .instanceVariable else .junk)
  | _ => none

/-- The scope of a name by the recursive rule: operators first, then variables by their sigils,
then setters by the scope of what stands before the closing sign, then words. -/
def scopeByRule (text : Text) : Scope :=
  if ∃ token ∈ Token.all, token.text = text then .operator
  else match scopeBySigil? text with
    | some scope => scope
    | none =>
      if 1 < text.length ∧ text.getLast? = some '=' ∧ text ∉ Token.comparisons then
        let before := scopeByRule text.dropLast
        if before = .setter ∨ before = .operator then .junk else .setter
      else if IsTail text then
        if text.head?.any Unicode.isUppercase then .constant else .localName
      else .junk
termination_by text.length
decreasing_by
  rw [List.length_dropLast]
  omega

theorem scan_eq (text : Text) (scope : Scope) :
    scan text scope = if IsTail text then scope else .junk := by
  cases text with
  | nil => rfl
  | cons c rest =>
    simp only [scan, IsTail, List.all_eq_true]
    by_cases hdigit : c.isDigit <;> simp [hdigit]

/-! ### Texts that are no variables -/

/-- A text that begins with neither sigil of a variable. -/
def IsWord (text : Text) : Prop :=
  text.head? ≠ some '$' ∧ text.head? ≠ some '@'

theorem IsWord.of_head?_eq {text other : Text} (h : IsWord text)
    (hhead : other.head? = text.head?) : IsWord other := by
  unfold IsWord
  rw [hhead]
  exact h

theorem isSetterShape_iff {text : Text} :
    isSetterShape text = true ↔
      1 < text.length ∧ text.getLast? = some '=' ∧ text ∉ Token.comparisons := by
  simp [isSetterShape, and_assoc]

theorem classify_of_isWord {text : Text} (h : IsWord text) :
    classify text = if isSetterShape text then classifySetter text else classifyWord text := by
  unfold classify
  split
  · exact absurd rfl h.1
  · exact absurd rfl h.2
  · exact absurd rfl h.2
  · rfl

/-! ### The stem and the run of signs -/

/-- One more sign at the end of a text leaves its stem alone. -/
theorem stem_append_sign (text : Text) : stem (text ++ ['=']) = stem text := by
  simp [stem]

/-- A text that does not end in a sign is its own stem. -/
theorem stem_append_singleton (text : Text) {c : Char} (hc : c ≠ '=') :
    stem (text ++ [c]) = text ++ [c] := by
  simp [stem, hc]

/-- A text is its stem followed by signs. -/
theorem exists_eq_stem_append_signs {text : Text} (hne : text ≠ []) :
    ∃ signs, text = stem text ++ List.replicate signs '=' := by
  induction text using List.reverseRecOn with
  | nil => exact absurd rfl hne
  | append_singleton text c ih =>
    by_cases hc : c = '='
    · subst hc
      rw [stem_append_sign]
      by_cases hnil : text = []
      · subst hnil
        exact ⟨0, rfl⟩
      · obtain ⟨signs, hsigns⟩ := ih hnil
        refine ⟨signs + 1, ?_⟩
        rw [List.replicate_succ', ← List.append_assoc, ← hsigns]
    · rw [stem_append_singleton text hc]
      exact ⟨0, (List.append_nil _).symm⟩

/-! ### The walk -/

/-- The walk over a run of signs, read from its last step. -/
theorem classifyRun_succ (text : Text) (scope : Scope) (signs : Nat) :
    classifyRun text scope (signs + 1) =
      scopeAfterSign (text ++ List.replicate (signs + 1) '=') (classifyRun text scope signs) := by
  induction signs generalizing text scope with
  | zero => rfl
  | succ signs ih =>
    rw [classifyRun, ih, List.append_assoc]
    rfl

theorem classifySetter_eq_classifyRun {text : Text} {signs : Nat}
    (h : text = stem text ++ List.replicate signs '=') :
    classifySetter text = classifyRun (stem text) (classifyWord (stem text)) signs := by
  have hlength : text.length - (stem text).length = signs := by
    have := congrArg List.length h
    rw [List.length_append, List.length_replicate] at this
    omega
  rw [classifySetter, hlength]

/-- The walk on a text with one more closing sign is one step more. -/
theorem classifySetter_append_sign {text : Text} (hne : text ≠ []) :
    classifySetter (text ++ ['=']) = scopeAfterSign (text ++ ['=']) (classifySetter text) := by
  obtain ⟨signs, hsigns⟩ := exists_eq_stem_append_signs hne
  have hlonger : text ++ ['='] = stem text ++ List.replicate (signs + 1) '=' := by
    rw [List.replicate_succ', ← List.append_assoc, ← hsigns]
  have hstem : text ++ ['='] =
      stem (text ++ ['=']) ++ List.replicate (signs + 1) '=' := by
    rw [stem_append_sign]
    exact hlonger
  rw [classifySetter_eq_classifyRun hstem, stem_append_sign, classifyRun_succ, ← hlonger,
    classifySetter_eq_classifyRun hsigns]

theorem classifySetter_of_stem_eq {text : Text} (h : stem text = text) :
    classifySetter text = classifyWord text := by
  have hsigns : text = stem text ++ List.replicate 0 '=' := by simp [h]
  rw [classifySetter_eq_classifyRun hsigns, h, classifyRun]

/-- The walk also settles the texts that the setter rule passes over: a comparison is a token,
and any other such text is its own stem. -/
theorem classifySetter_of_not_shape {text : Text} (hne : text ≠ [])
    (hshape : isSetterShape text = false) : classifySetter text = classifyWord text := by
  by_cases hcomparison : text ∈ Token.comparisons
  · have hall : ∀ text ∈ Token.comparisons, classifySetter text = classifyWord text := by decide
    exact hall text hcomparison
  · obtain rfl | ⟨before, c, rfl⟩ := List.eq_nil_or_concat' text
    · exact absurd rfl hne
    · refine classifySetter_of_stem_eq ?_
      by_cases hc : c = '='
      · -- Only the lone sign ends in a sign without being of setter shape.
        subst hc
        have hbefore : before = [] := by
          by_contra hbefore
          have hpos := List.length_pos_iff.mpr hbefore
          have htrue : isSetterShape (before ++ ['=']) = true :=
            isSetterShape_iff.mpr ⟨by simp [hpos], by simp, hcomparison⟩
          rw [hshape] at htrue
          exact absurd htrue (by decide)
        subst hbefore
        rfl
      · exact stem_append_singleton before hc

theorem classify_eq_classifySetter {text : Text} (hword : IsWord text) (hne : text ≠ []) :
    classify text = classifySetter text := by
  rw [classify_of_isWord hword]
  by_cases hshape : isSetterShape text = true
  · rw [if_pos hshape]
  · rw [if_neg hshape, classifySetter_of_not_shape hne (by simpa using hshape)]

/-- A nonempty text with a closing sign is of setter shape unless it is a comparison, and the
comparisons are operators. -/
theorem scopeAfterSign_append_sign {base : Text} (hne : base ≠ []) (before : Scope) :
    scopeAfterSign (base ++ ['=']) before =
      if (Token.find? (base ++ ['='])).isSome then .operator
      else if before = .setter ∨ before = .operator then .junk else .setter := by
  unfold scopeAfterSign
  by_cases hfind : (Token.find? (base ++ ['='])).isSome = true
  · rw [if_pos hfind, if_pos hfind]
  · have hcomparison : base ++ ['='] ∉ Token.comparisons := by
      intro hmem
      have hall : ∀ text ∈ Token.comparisons, (Token.find? text).isSome = true := by decide
      exact hfind (hall _ hmem)
    have hpos := List.length_pos_iff.mpr hne
    have hshape : isSetterShape (base ++ ['=']) = true :=
      isSetterShape_iff.mpr ⟨by simp [hpos], by simp, hcomparison⟩
    rw [if_neg hfind, if_neg hfind, if_pos hshape]
    cases before <;> rfl

/-- The scope of a name with a closing sign, from the scope of the name. -/
theorem classify_append_sign {base : Text} (hword : IsWord base) (hne : base ≠ []) :
    classify (base ++ ['=']) =
      if (Token.find? (base ++ ['='])).isSome then .operator
      else if classify base = .setter ∨ classify base = .operator then .junk else .setter := by
  have hlonger : IsWord (base ++ ['=']) :=
    hword.of_head?_eq (List.head?_append_of_ne_nil _ hne)
  rw [classify_eq_classifySetter hlonger (by simp), classifySetter_append_sign hne,
    scopeAfterSign_append_sign hne, classify_eq_classifySetter hword hne]

/-! ### Scopes and shapes -/

theorem find?_isSome_iff {text : Text} :
    (Token.find? text).isSome = true ↔ ∃ token ∈ Token.all, token.text = text := by
  simp [Token.find?]

theorem scan_eq_or_junk (text : Text) (scope : Scope) :
    scan text scope = scope ∨ scan text scope = .junk := by
  rw [scan_eq]
  by_cases htail : IsTail text <;> simp [htail]

/-- A text to which no setter rule applies is an operator, a constant, a local name or junk. -/
theorem classifyWord_eq (text : Text) :
    classifyWord text =
      if (Token.find? text).isSome then .operator
      else if IsTail text then
        if text.head?.any Unicode.isUppercase then .constant else .localName
      else .junk := by
  unfold classifyWord
  cases text with
  | nil => rfl
  | cons c rest =>
    simp only [scan_eq, List.head?_cons, Option.any_some]
    by_cases hupper : Unicode.isUppercase c = true <;> simp [hupper]

/-- A text begins with a sigil or is a word. -/
theorem sigil_cases (text : Text) :
    (∃ name, text = '$' :: name) ∨ (∃ name, text = '@' :: name) ∨ IsWord text := by
  by_cases hdollar : text.head? = some '$'
  · exact .inl (List.head?_eq_some_iff.mp hdollar)
  · by_cases hat : text.head? = some '@'
    · exact .inr (.inl (List.head?_eq_some_iff.mp hat))
    · exact .inr (.inr ⟨hdollar, hat⟩)

/-- A word has a nonempty word before a closing sign, or no setter rule applies to it. -/
theorem IsWord.signed_or_not_shape {text : Text} (hword : IsWord text) :
    (∃ base, IsWord base ∧ base ≠ [] ∧ text = base ++ ['=']) ∨ isSetterShape text = false := by
  by_cases hshape : isSetterShape text = true
  · obtain ⟨hlength, hlast, -⟩ := isSetterShape_iff.mp hshape
    obtain ⟨base, rfl⟩ := List.getLast?_eq_some_iff.mp hlast
    have hne : base ≠ [] := by
      rintro rfl
      simp at hlength
    exact .inl ⟨base, hword.of_head?_eq (List.head?_append_of_ne_nil _ hne).symm, hne, rfl⟩
  · exact .inr (by simpa using hshape)

theorem classify_variable (name : Text) :
    classify ('@' :: name) = .classVariable ∨ classify ('@' :: name) = .instanceVariable ∨
      classify ('@' :: name) = .junk := by
  generalize htext : '@' :: name = text
  unfold classify
  split
  · simp at htext
  · next rest => rcases scan_eq_or_junk rest .classVariable with h | h <;> simp [h]
  · next rest _ => rcases scan_eq_or_junk rest .instanceVariable with h | h <;> simp [h]
  · next hat => exact absurd htext.symm (hat name)

/-- A local name, a constant, a setter or an operator begins with neither sigil. -/
theorem isWord_of_classify_mem {text : Text}
    (h : classify text ∈ [Scope.localName, .constant, .setter, .operator]) : IsWord text := by
  obtain ⟨name, rfl⟩ | ⟨name, rfl⟩ | hword := sigil_cases text
  · simp [classify] at h
  · rcases classify_variable name with hscope | hscope | hscope <;> simp [hscope] at h
  · exact hword

/-- The operators are the tokens. -/
theorem classify_eq_operator_iff {text : Text} :
    classify text = .operator ↔ ∃ token ∈ Token.all, token.text = text := by
  constructor
  · intro h
    have hword : IsWord text := isWord_of_classify_mem (by simp [h])
    rw [← find?_isSome_iff]
    by_contra hfind
    rcases hword.signed_or_not_shape with ⟨base, hbase, hne, rfl⟩ | hshape
    · rw [classify_append_sign hbase hne, if_neg hfind] at h
      split at h <;> simp at h
    · rw [classify_of_isWord hword, hshape, if_neg (by simp), classifyWord_eq,
        if_neg hfind] at h
      repeat' split at h
      all_goals simp at h
  · rintro ⟨token, htoken, rfl⟩
    have hall : ∀ token ∈ Token.all, classify token.text = .operator := by decide
    exact hall token htoken

/-- A local name or a constant is an identifier and no variable. -/
theorem isWord_and_isTail_of_classify {text : Text}
    (h : classify text = .localName ∨ classify text = .constant) : IsWord text ∧ IsTail text := by
  have hword : IsWord text := isWord_of_classify_mem (by rcases h with h | h <;> simp [h])
  refine ⟨hword, ?_⟩
  rcases hword.signed_or_not_shape with ⟨base, hbase, hne, rfl⟩ | hshape
  · rw [classify_append_sign hbase hne] at h
    repeat' split at h
    all_goals simp at h
  · rw [classify_of_isWord hword, hshape, if_neg (by simp), classifyWord_eq] at h
    by_contra htail
    rw [if_neg htail] at h
    split at h <;> simp at h

/-- The scope of a word is none of the variables'. -/
theorem classify_of_isWord_ne {text : Text} (hword : IsWord text) :
    classify text ≠ .globalVariable ∧ classify text ≠ .instanceVariable ∧
      classify text ≠ .classVariable := by
  rcases hword.signed_or_not_shape with ⟨base, hbase, hne, rfl⟩ | hshape
  · rw [classify_append_sign hbase hne]
    repeat' split
    all_goals simp
  · rw [classify_of_isWord hword, hshape, if_neg (by simp), classifyWord_eq]
    repeat' split
    all_goals simp

/-- What stands before the sign of a setter: a nonempty local name, constant or junk. -/
theorem exists_base_of_classify_eq_setter {text : Text} (h : classify text = .setter) :
    ∃ base, text = base ++ ['='] ∧ base ≠ [] ∧
      (classify base = .localName ∨ classify base = .constant ∨ classify base = .junk) := by
  have hword : IsWord text := isWord_of_classify_mem (by simp [h])
  rcases hword.signed_or_not_shape with ⟨base, hbase, hne, rfl⟩ | hshape
  · refine ⟨base, rfl, hne, ?_⟩
    obtain ⟨hglobal, hinstance, hclass⟩ := classify_of_isWord_ne hbase
    have hbefore : ¬ (classify base = .setter ∨ classify base = .operator) := by
      intro hbefore
      rw [classify_append_sign hbase hne, if_pos hbefore] at h
      split at h <;> simp at h
    cases hscope : classify base <;> simp_all
  · rw [classify_of_isWord hword, hshape, if_neg (by simp), classifyWord_eq] at h
    repeat' split at h
    all_goals simp at h

/-- A nonempty local name or constant has a setter. -/
theorem classify_append_sign_eq_setter {base : Text} (hne : base ≠ [])
    (h : classify base = .localName ∨ classify base = .constant) :
    classify (base ++ ['=']) = .setter := by
  obtain ⟨hword, htail⟩ := isWord_and_isTail_of_classify h
  have hfind : ¬ (Token.find? (base ++ ['='])).isSome = true := by
    intro hfind
    obtain ⟨token, htoken, htext⟩ := find?_isSome_iff.mp hfind
    -- What stands before the sign of an operator is no identifier.
    have hall : ∀ token ∈ Token.all, token.text.getLast? = some '=' →
        ¬ IsTail token.text.dropLast := by decide
    have hbase := hall token htoken (by simp [htext])
    rw [htext, List.dropLast_concat] at hbase
    exact hbase htail
  rw [classify_append_sign hword hne, if_neg hfind]
  rcases h with h | h <;> simp [h]

/-! ### The walk answers as the rule does -/

/-- The rule of the setters, for a word that is no operator. -/
theorem classify_of_shape {text : Text} (hword : IsWord text)
    (htoken : ¬ ∃ token ∈ Token.all, token.text = text)
    (hshape : 1 < text.length ∧ text.getLast? = some '=' ∧ text ∉ Token.comparisons) :
    classify text =
      if classify text.dropLast = .setter ∨ classify text.dropLast = .operator then .junk
      else .setter := by
  obtain ⟨base, hbase, hne, rfl⟩ : ∃ base, IsWord base ∧ base ≠ [] ∧ text = base ++ ['='] := by
    rcases hword.signed_or_not_shape with hsigned | hnot
    · exact hsigned
    · rw [isSetterShape_iff.mpr hshape] at hnot
      exact absurd hnot (by decide)
  rw [classify_append_sign hbase hne, if_neg (find?_isSome_iff.not.mpr htoken),
    List.dropLast_concat]

/-- The rule of the other words. -/
theorem classify_of_not_shape {text : Text} (hword : IsWord text)
    (htoken : ¬ ∃ token ∈ Token.all, token.text = text)
    (hshape : ¬ (1 < text.length ∧ text.getLast? = some '=' ∧ text ∉ Token.comparisons)) :
    classify text =
      if IsTail text then if text.head?.any Unicode.isUppercase then .constant else .localName
      else .junk := by
  rw [classify_of_isWord hword, if_neg (isSetterShape_iff.not.mpr hshape), classifyWord_eq,
    if_neg (find?_isSome_iff.not.mpr htoken)]

/-- A text without a scope by its sigil has no sigil. -/
theorem isWord_of_scopeBySigil?_eq_none {text : Text} (h : scopeBySigil? text = none) :
    IsWord text := by
  obtain ⟨name, rfl⟩ | ⟨name, rfl⟩ | hword := sigil_cases text
  · simp [scopeBySigil?] at h
  · cases name with
    | nil => simp [scopeBySigil?] at h
    | cons c rest => by_cases hat : c = '@' <;> simp [scopeBySigil?, hat] at h
  · exact hword

theorem classify_of_scopeBySigil?_eq_some {text : Text} {scope : Scope}
    (h : scopeBySigil? text = some scope) : classify text = scope := by
  unfold scopeBySigil? at h
  split at h <;> simp_all [classify, scan_eq]

/-- The scope that the walk finds is the scope of the recursive rule, for every text: for runs
of signs of any length, for texts of signs alone, and for operators followed by signs. -/
theorem classify_eq_scopeByRule (text : Text) : classify text = scopeByRule text := by
  fun_induction scopeByRule text with
  | case1 text htoken => exact classify_eq_operator_iff.mpr htoken
  | case2 text htoken scope hsigil => exact classify_of_scopeBySigil?_eq_some hsigil
  | case3 text htoken hsigil hshape before hbefore ih =>
    rw [classify_of_shape (isWord_of_scopeBySigil?_eq_none hsigil) htoken hshape, ih,
      if_pos hbefore]
  | case4 text htoken hsigil hshape before hbefore ih =>
    rw [classify_of_shape (isWord_of_scopeBySigil?_eq_none hsigil) htoken hshape, ih,
      if_neg hbefore]
  | case5 text htoken hsigil hshape htail hupper =>
    rw [classify_of_not_shape (isWord_of_scopeBySigil?_eq_none hsigil) htoken hshape,
      if_pos htail, if_pos hupper]
  | case6 text htoken hsigil hshape htail hupper =>
    rw [classify_of_not_shape (isWord_of_scopeBySigil?_eq_none hsigil) htoken hshape,
      if_pos htail, if_neg hupper]
  | case7 text htoken hsigil hshape htail =>
    rw [classify_of_not_shape (isWord_of_scopeBySigil?_eq_none hsigil) htoken hshape,
      if_neg htail]

end Interning
