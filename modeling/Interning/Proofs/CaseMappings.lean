import Interning.Unicode.Case
import Mathlib.Data.List.Basic

/-!
# Mapping the case of a text twice

A case mapping is settled after one step: every character of an uppercase image uppercases to
itself, and every character of a lowercase image lowercases to itself (`upper_of_mem_upper`,
`lower_of_mem_lower`). This is a property of the tables, namely that no image is the source of
another mapping. The two sets of code points are compared as bits of numbers (`codeBits`), since
the tables are too long to compare code point by code point.

For texts it follows that uppercasing and lowercasing twice is the same as once, whatever the
neighbours of a sigma are, because a lowercase image holds no capital sigma
(`Text.upcase_upcase`, `Text.downcase_downcase`). Swapping the case twice gives back an ASCII text
(`Text.swapCase_swapCase`).

Capitalizing is different. The first character may have an uppercase image of several characters,
and all but the first of them are lowercased when the result is capitalized once more.
`Text.capitalize_capitalize_iff` says that capitalizing twice is the same as once exactly for the
texts that `Text.StaysCapitalized` describes.
-/

set_option autoImplicit false
set_option relaxedAutoImplicit false

namespace Interning

namespace Unicode

/-! ### Code points as bits of a number -/

/-- The number whose bits are the given code points. -/
def codeBits (codes : List Nat) : Nat :=
  codes.foldr (fun code bits ↦ bits ||| 1 <<< code) 0

theorem testBit_codeBits (codes : List Nat) (code : Nat) :
    (codeBits codes).testBit code = true ↔ code ∈ codes := by
  induction codes with
  | nil => simp [codeBits]
  | cons first rest ih =>
    have hfirst : (1 <<< first).testBit code = true ↔ code = first := by
      rw [Nat.one_shiftLeft, Nat.testBit_two_pow, decide_eq_true_iff, eq_comm]
    rw [codeBits, List.foldr_cons, Nat.testBit_or, Bool.or_eq_true, hfirst, List.mem_cons, or_comm]
    exact or_congr_right ih

/-- Lists of code points whose numbers have no bit in common have no code point in common. -/
theorem disjoint_of_codeBits {codes other : List Nat}
    (h : codeBits codes &&& codeBits other = 0) : codes.Disjoint other := by
  intro code hcode hother
  have hboth : (codeBits codes &&& codeBits other).testBit code = true := by
    rw [Nat.testBit_and, Bool.and_eq_true, testBit_codeBits, testBit_codeBits]
    exact ⟨hcode, hother⟩
  rw [h, Nat.zero_testBit] at hboth
  exact absurd hboth (by simp)

/-! ### Sources and images of a mapping -/

/-- The code points of a run. -/
def Span.codes (span : Span) : List Nat :=
  ((List.range (span.last - span.first + 1)).map (span.first + ·)).filter span.contains

theorem Span.mem_codes_iff {span : Span} {code : Nat} :
    code ∈ span.codes ↔ span.contains code = true := by
  rw [codes, List.mem_filter, List.mem_map, and_iff_right_iff_imp]
  intro hcontains
  simp only [contains, Bool.and_eq_true, decide_eq_true_eq] at hcontains
  exact ⟨code - span.first, List.mem_range.mpr (by omega), by omega⟩

/-- The code points that a case mapping changes. -/
def sources (expansions : List (Nat × List Nat)) (shifts : List CaseShift) : List Nat :=
  expansions.map Prod.fst ++ shifts.flatMap fun shift ↦ shift.span.codes

/-- The code points that a case mapping puts in their places. -/
def images (expansions : List (Nat × List Nat)) (shifts : List CaseShift) : List Nat :=
  expansions.flatMap Prod.snd ++ shifts.flatMap fun shift ↦ shift.span.codes.map shift.apply

variable {expansions : List (Nat × List Nat)} {shifts : List CaseShift} {c d : Char} {text : Text}

/-- What is no source is left alone. -/
theorem mapCase_of_not_mem_sources (h : c.toNat ∉ sources expansions shifts) :
    mapCase expansions shifts c = [c] := by
  rw [sources, List.mem_append, not_or] at h
  obtain ⟨hexpansion, hshift⟩ := h
  have hlookup : expansions.lookup c.toNat = none := by
    rw [List.lookup_eq_none_iff]
    rintro entry hentry
    rw [bne_iff_ne]
    exact fun heq ↦ hexpansion (List.mem_map.mpr ⟨entry, hentry, heq.symm⟩)
  have hfind : shifts.find? (·.span.contains c.toNat) = none := by
    rw [List.find?_eq_none]
    exact fun shift hmem hcontains ↦ hshift
      (List.mem_flatMap.mpr ⟨shift, hmem, Span.mem_codes_iff.mpr hcontains⟩)
  simp only [mapCase, hlookup, hfind]

/-- Whatever a mapping answers is its argument or the character of an image. -/
theorem mem_images_of_mem_mapCase (h : d ∈ mapCase expansions shifts c) :
    mapCase expansions shifts c = [d] ∧ d = c ∨
      ∃ code ∈ images expansions shifts, d = Char.ofNat code := by
  unfold mapCase at h ⊢
  cases hlookup : expansions.lookup c.toNat with
  | some codes =>
    simp only [hlookup, List.mem_map] at h
    obtain ⟨code, hcode, rfl⟩ := h
    obtain ⟨before, behind, hentry, -⟩ := List.lookup_eq_some_iff.mp hlookup
    have hmem : (c.toNat, codes) ∈ expansions := by simp [hentry]
    exact .inr ⟨code, List.mem_append_left _ (List.mem_flatMap.mpr ⟨_, hmem, hcode⟩), rfl⟩
  | none =>
    cases hfind : shifts.find? (·.span.contains c.toNat) with
    | some shift =>
      simp only [hlookup, hfind, List.mem_singleton] at h
      have hcontains := List.find?_some hfind
      have hmem : shift.apply c.toNat ∈ shift.span.codes.map shift.apply :=
        List.mem_map_of_mem (Span.mem_codes_iff.mpr hcontains)
      exact .inr ⟨_, List.mem_append_right _ (List.mem_flatMap.mpr
        ⟨shift, List.mem_of_find?_eq_some hfind, hmem⟩), h⟩
    | none =>
      simp only [hlookup, hfind, List.mem_singleton] at h
      exact .inl ⟨by rw [h], h⟩

/-- A mapping that has no image among its sources settles after one step. An image that is no code
point stands for the first of all characters. -/
theorem mapCase_of_mem_mapCase
    (hdisjoint : (0 :: images expansions shifts).Disjoint (sources expansions shifts))
    (h : d ∈ mapCase expansions shifts c) : mapCase expansions shifts d = [d] := by
  rcases mem_images_of_mem_mapCase h with ⟨hself, rfl⟩ | ⟨code, hcode, rfl⟩
  · exact hself
  · refine mapCase_of_not_mem_sources ?_
    by_cases hvalid : code.isValidChar
    · have hnat : (Char.ofNat code).toNat = code := by
        rw [Char.ofNat, dif_pos hvalid]
        rfl
      rw [hnat]
      exact hdisjoint (List.mem_cons_of_mem 0 hcode)
    · rw [Char.ofNat, dif_neg hvalid]
      exact hdisjoint List.mem_cons_self

/-- A mapping without empty expansions answers at least one character. -/
theorem mapCase_ne_nil (h : ∀ entry ∈ expansions, entry.2 ≠ []) (c : Char) :
    mapCase expansions shifts c ≠ [] := by
  unfold mapCase
  split
  · next codes hlookup =>
    obtain ⟨before, behind, hentry, -⟩ := List.lookup_eq_some_iff.mp hlookup
    have hmem : (c.toNat, codes) ∈ expansions := by simp [hentry]
    simpa using h _ hmem
  · split <;> simp

/-! ### The uppercase and the lowercase mapping -/

/-- Every character of an uppercase image uppercases to itself. -/
theorem upper_of_mem_upper (h : d ∈ upper c) : upper d = [d] :=
  mapCase_of_mem_mapCase (disjoint_of_codeBits (by decide +kernel)) h

/-- Every character of a lowercase image lowercases to itself. -/
theorem lower_of_mem_lower (h : d ∈ lower c) : lower d = [d] :=
  mapCase_of_mem_mapCase (disjoint_of_codeBits (by decide +kernel)) h

theorem upper_ne_nil (c : Char) : upper c ≠ [] :=
  mapCase_ne_nil (by decide) c

theorem lower_ne_nil (c : Char) : lower c ≠ [] :=
  mapCase_ne_nil (by decide) c

/-! ### ASCII characters -/

theorem Span.contains_eq_false {span : Span} {code : Nat} (h : code < span.first) :
    span.contains code = false := by
  simp only [contains, Bool.and_eq_false_iff, decide_eq_false_iff_not]
  omega

theorem Span.contains_unit_iff {first last code : Nat} :
    (⟨first, last, 1⟩ : Span).contains code = true ↔ first ≤ code ∧ code ≤ last := by
  simp [contains, Nat.mod_one]

theorem toNat_lt_of_isAscii (hc : isAscii c = true) : c.toNat < 128 := by
  simpa [isAscii] using hc

/-- Of the runs of a class only the first can contain an ASCII character. -/
theorem any_contains_of_isAscii {span : Span} {spans : List Span}
    (hhead : spans.head? = some span) (htail : ∀ other ∈ spans.tail, 128 ≤ other.first)
    (hc : isAscii c = true) : spans.any (·.contains c.toNat) = span.contains c.toNat := by
  obtain ⟨rest, rfl⟩ := List.head?_eq_some_iff.mp hhead
  have hlater : rest.any (·.contains c.toNat) = false := by
    rw [List.any_eq_false]
    intro other hother
    have hfirst := htail other hother
    rw [Span.contains_eq_false (Nat.lt_of_lt_of_le (toNat_lt_of_isAscii hc) hfirst)]
    simp
  rw [List.any_cons, hlater, Bool.or_false]

/-- Of the entries of a mapping only the first run can change an ASCII character. -/
theorem mapCase_of_isAscii {shift : CaseShift} (hexpansions : ∀ entry ∈ expansions, 128 ≤ entry.1)
    (hhead : shifts.head? = some shift) (htail : ∀ other ∈ shifts.tail, 128 ≤ other.span.first)
    (hc : isAscii c = true) :
    mapCase expansions shifts c =
      if shift.span.contains c.toNat then [Char.ofNat (shift.apply c.toNat)] else [c] := by
  obtain ⟨rest, rfl⟩ := List.head?_eq_some_iff.mp hhead
  have hcode := toNat_lt_of_isAscii hc
  have hlookup : expansions.lookup c.toNat = none := by
    rw [List.lookup_eq_none_iff]
    intro entry hentry
    exact bne_iff_ne.mpr (Nat.ne_of_lt (Nat.lt_of_lt_of_le hcode (hexpansions entry hentry)))
  have hfind : rest.find? (·.span.contains c.toNat) = none := by
    rw [List.find?_eq_none]
    intro other hother
    rw [Span.contains_eq_false (Nat.lt_of_lt_of_le hcode (htail other hother))]
    simp
  cases hcontains : shift.span.contains c.toNat <;>
    simp [mapCase, hlookup, hcontains, hfind]

/-- What is to be shown of an ASCII character is shown code point by code point. -/
@[elab_as_elim]
theorem of_isAscii {motive : Char → Prop} (h : ∀ code < 128, motive (Char.ofNat code))
    (hc : isAscii c = true) : motive c :=
  Char.ofNat_toNat c ▸ h c.toNat (toNat_lt_of_isAscii hc)

theorem isUppercase_of_isAscii (hc : isAscii c = true) : isUppercase c = c.isUpper := by
  have hhead : uppercaseSpans.head? = some ⟨65, 90, 1⟩ := rfl
  have hletter : c.isUpper = decide ('A'.val ≤ c.val ∧ c.val ≤ 'Z'.val) := rfl
  rw [isUppercase, any_contains_of_isAscii hhead (by decide +kernel) hc, Bool.eq_iff_iff,
    Span.contains_unit_iff, hletter]
  simp [UInt32.le_iff_toNat_le]

theorem isLowercase_of_isAscii (hc : isAscii c = true) : isLowercase c = c.isLower := by
  have hhead : lowercaseSpans.head? = some ⟨97, 122, 1⟩ := rfl
  have hletter : c.isLower = (decide ('a'.val ≤ c.val) && decide (c.val ≤ 'z'.val)) := rfl
  rw [isLowercase, any_contains_of_isAscii hhead (by decide +kernel) hc, Bool.eq_iff_iff,
    Span.contains_unit_iff, hletter]
  simp [UInt32.le_iff_toNat_le]

theorem lower_of_isAscii (hc : isAscii c = true) : lower c = [c.toLower] := by
  have hhead : lowerShifts.head? = some ⟨⟨65, 90, 1⟩, 97⟩ := rfl
  rw [lower, mapCase_of_isAscii (by decide) hhead (by decide +kernel) hc]
  exact of_isAscii (by decide +kernel) hc

theorem upper_of_isAscii (hc : isAscii c = true) : upper c = [c.toUpper] := by
  have hhead : upperShifts.head? = some ⟨⟨97, 122, 1⟩, 65⟩ := rfl
  rw [upper, mapCase_of_isAscii (by decide +kernel) hhead (by decide +kernel) hc]
  exact of_isAscii (by decide +kernel) hc

end Unicode

namespace Text

open Unicode

variable {text : Text}

/-! ### Uppercasing -/

theorem upcase_eq_self (h : ∀ c ∈ text, upper c = [c]) : upcase text = text := by
  induction text with
  | nil => rfl
  | cons c text ih =>
    obtain ⟨hfirst, hrest⟩ := List.forall_mem_cons.mp h
    rw [upcase, List.flatMap_cons, hfirst, List.singleton_append, ← upcase, ih hrest]

/-- Uppercasing twice is the same as once. -/
theorem upcase_upcase (text : Text) : upcase (upcase text) = upcase text := by
  refine upcase_eq_self fun d hd ↦ ?_
  obtain ⟨c, -, hd⟩ := List.mem_flatMap.mp hd
  exact upper_of_mem_upper hd

/-! ### Lowercasing -/

/-- What stands for a character in a lowercase text, whichever of the two sigmas it is. -/
structure LowersTo (c : Char) (image : Text) : Prop where
  ne_nil : image ≠ []
  eq_singleton_iff : image = [c] ↔ lower c = [c]
  lower_eq : ∀ d ∈ image, lower d = [d]

theorem lowersTo_lower (c : Char) : LowersTo c (lower c) :=
  ⟨lower_ne_nil c, Iff.rfl, fun _ ↦ lower_of_mem_lower⟩

theorem lowersTo_sigma {d : Char} (hd : d = 'ς' ∨ d = 'σ') : LowersTo 'Σ' [d] := by
  have hcapital : lower 'Σ' = ['σ'] := by
    decide +kernel
  have hlower : lower d = [d] := by
    rcases hd with rfl | rfl <;> decide +kernel
  have hne : d ≠ 'Σ' := by
    rcases hd with rfl | rfl <;> decide
  constructor
  case ne_nil => exact List.cons_ne_nil _ _
  case eq_singleton_iff =>
    rw [hcapital]
    exact iff_of_false (by simpa using hne) (by decide)
  case lower_eq =>
    intro e he
    obtain rfl := List.mem_singleton.mp he
    exact hlower

theorem exists_lowersTo (before rest : Text) (c : Char) :
    ∃ image, LowersTo c image ∧
      downcaseAfter before (c :: rest) = image ++ downcaseAfter (c :: before) rest := by
  refine ⟨_, ?_, rfl⟩
  split
  · next hsigma =>
    subst hsigma
    split
    · exact lowersTo_sigma (.inl rfl)
    · exact lowersTo_sigma (.inr rfl)
  · exact lowersTo_lower c

theorem lower_of_mem_downcaseAfter {before : Text} {d : Char} (h : d ∈ downcaseAfter before text) :
    lower d = [d] := by
  induction text generalizing before with
  | nil => simp [downcaseAfter] at h
  | cons c text ih =>
    obtain ⟨image, himage, heq⟩ := exists_lowersTo before text c
    rw [heq, List.mem_append] at h
    rcases h with hfirst | hrest
    · exact himage.lower_eq d hfirst
    · exact ih hrest

theorem length_le_downcaseAfter (before text : Text) :
    text.length ≤ (downcaseAfter before text).length := by
  induction text generalizing before with
  | nil => exact Nat.zero_le _
  | cons c text ih =>
    obtain ⟨image, himage, heq⟩ := exists_lowersTo before text c
    have hpos := List.length_pos_iff.mpr himage.ne_nil
    have hrest := ih (c :: before)
    rw [heq, List.length_append, List.length_cons]
    omega

/-- Lowercasing leaves exactly those texts alone of which it leaves every character alone. -/
theorem downcaseAfter_eq_self_iff (before text : Text) :
    downcaseAfter before text = text ↔ ∀ c ∈ text, lower c = [c] := by
  induction text generalizing before with
  | nil => simp [downcaseAfter]
  | cons c text ih =>
    obtain ⟨image, himage, heq⟩ := exists_lowersTo before text c
    have hsplit : image ++ downcaseAfter (c :: before) text = [c] ++ text ↔
        image = [c] ∧ downcaseAfter (c :: before) text = text := by
      constructor
      · intro happend
        -- Neither part is shorter than what it stands for, so the parts end at the same place.
        have hpos := List.length_pos_iff.mpr himage.ne_nil
        have hrest := length_le_downcaseAfter (c :: before) text
        have hlength := congrArg List.length happend
        rw [List.length_append, List.length_append, List.length_singleton] at hlength
        exact List.append_inj happend (by rw [List.length_singleton]; omega)
      · rintro ⟨hfirst, hrest⟩
        rw [hfirst, hrest]
    rw [heq, List.forall_mem_cons, ← himage.eq_singleton_iff, ← ih (c :: before)]
    exact hsplit

/-- Lowercasing twice is the same as once. -/
theorem downcase_downcase (text : Text) : downcase (downcase text) = downcase text :=
  (downcaseAfter_eq_self_iff _ _).mpr fun _ ↦ lower_of_mem_downcaseAfter

/-! ### Capitalizing -/

/-- Behind its first character, the uppercase image of the first character of a text holds nothing
that lowercasing would change. -/
def StaysCapitalized : Text → Prop
  | [] => True
  | first :: _ => ∀ c ∈ (upper first).tail, lower c = [c]

instance : DecidablePred StaysCapitalized
  | [] => isTrue trivial
  | first :: _ => List.decidableBAll (fun c ↦ lower c = [c]) (upper first).tail

/-- Capitalizing twice is the same as once exactly for texts that stay capitalized. -/
theorem capitalize_capitalize_iff (text : Text) :
    capitalize (capitalize text) = capitalize text ↔ StaysCapitalized text := by
  cases text with
  | nil => exact iff_of_true rfl trivial
  | cons first rest =>
    obtain ⟨initial, tail, hupper⟩ := List.exists_cons_of_ne_nil (upper_ne_nil first)
    have hinitial : upper initial = [initial] :=
      upper_of_mem_upper (c := first) (by simp [hupper])
    have hcapital : capitalize (first :: rest) = initial :: (tail ++ downcase rest) := by
      rw [capitalize, hupper, List.cons_append]
    rw [hcapital, capitalize, hinitial, List.singleton_append, List.cons.injEq, downcase,
      downcaseAfter_eq_self_iff, List.forall_mem_append, StaysCapitalized, hupper, List.tail_cons]
    exact ⟨fun h ↦ h.2.1, fun h ↦ ⟨rfl, h, fun _ ↦ lower_of_mem_downcaseAfter⟩⟩

/-! ### Swapping the case -/

/-- An ASCII letter in the other case; every other character is left alone. -/
def swapLetter (c : Char) : Char :=
  if c.isUpper then c.toLower else c.toUpper

theorem swapLetter_swapLetter {c : Char} (hc : isAscii c = true) :
    isAscii (swapLetter c) = true ∧ swapLetter (swapLetter c) = c :=
  of_isAscii (by decide +kernel) hc

theorem swapCase_of_isAscii (h : ∀ c ∈ text, isAscii c = true) :
    swapCase text = text.map swapLetter := by
  rw [swapCase, List.map_eq_flatMap]
  refine List.flatMap_congr fun c hmem ↦ ?_
  have hc := h c hmem
  rw [isUppercase_of_isAscii hc, isLowercase_of_isAscii hc, lower_of_isAscii hc,
    upper_of_isAscii hc, swapLetter]
  split
  · rfl
  · split
    · rfl
    · next hlower =>
      have hself : c.toUpper = c := dif_neg fun hletter ↦
        hlower (Bool.and_eq_true_iff.mpr (hletter.imp decide_eq_true decide_eq_true))
      rw [hself]

/-- Swapping the case of an ASCII text twice gives it back. -/
theorem swapCase_swapCase (h : ∀ c ∈ text, isAscii c = true) : swapCase (swapCase text) = text := by
  have hswapped : ∀ c ∈ text.map swapLetter, isAscii c = true := by
    intro c hmem
    obtain ⟨d, hd, rfl⟩ := List.mem_map.mp hmem
    exact (swapLetter_swapLetter (h d hd)).1
  rw [swapCase_of_isAscii h, swapCase_of_isAscii hswapped, List.map_map]
  exact (List.map_congr_left fun c hmem ↦ (swapLetter_swapLetter (h c hmem)).2).trans
    (List.map_id text)

end Text

end Interning
