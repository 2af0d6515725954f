import Interning.Proofs.CaseMappings
import Mathlib.Data.List.TakeWhile

/-!
# What the case mappings make of a text

A case mapping replaces the characters of a text one by one. An image `IsMadeOf` pieces, one for each
character in its place, and a mapping is described by which piece suits a character between what
stands before it and what stands behind it.

For uppercasing and for swapping the neighbours make no difference (`Uppercases`, `SwapsCase`).
Lowercasing turns a capital sigma into a final sigma where it ends a word: the last character before
it that is not passed over is a cased one, and the first one behind it is not (`EndsCased`,
`BeginsCased`, `Lowercases`). Capitalizing uppercases the first character and lowercases the rest as
a text of its own (`Capitalizes`). Each description has one image for a text, the one that the
mapping computes (`uppercases_iff`, `lowercases_iff`, `capitalizes_iff`, `swapsCase_iff`).

What a single character maps to is a matter of the tables. On ASCII texts the mappings do to the
letters what `Char.toUpper` and `Char.toLower` do (`Text.upcase_of_isAscii`,
`Text.downcase_of_isAscii`, `Text.capitalize_of_isAscii`, `Text.swapCase_of_isAscii`).
-/

set_option autoImplicit false
set_option relaxedAutoImplicit false

namespace Interning

open Unicode

/-! ### Images made of pieces -/

/-- An image is made of pieces, one for each character of a text in order, each of which suits its
character with what stands before it and behind it. -/
def IsMadeOf (suits : Text → Char → Text → Text → Prop) (text image : Text) : Prop :=
  ∃ pieces : List Text, image = pieces.flatten ∧ pieces.length = text.length ∧
    ∀ before c behind piece, text = before ++ c :: behind → pieces[before.length]? = some piece →
      suits before c behind piece

variable {suits : Text → Char → Text → Text → Prop} {piece : Text → Char → Text → Text}
  {text image : Text}

/-- Where one piece suits a character in its place there is one image. -/
theorem isMadeOf_iff
    (h : ∀ before c behind image, suits before c behind image ↔ image = piece before c behind) :
    IsMadeOf suits text image ↔
      image = (text.mapIdx fun i c ↦ piece (text.take i) c (text.drop (i + 1))).flatten := by
  constructor
  · rintro ⟨pieces, rfl, hlength, hpieces⟩
    refine congrArg List.flatten (List.ext_getElem (by simpa using hlength) fun i hi htext ↦ ?_)
    rw [List.length_mapIdx] at htext
    have hcut : text = text.take i ++ text[i] :: text.drop (i + 1) := by
      rw [← List.drop_eq_getElem_cons htext, List.take_append_drop]
    have hplace : (text.take i).length = i := List.length_take_of_le (Nat.le_of_lt htext)
    rw [List.getElem_mapIdx, ← h]
    exact hpieces _ _ _ _ hcut (by rw [hplace, List.getElem?_eq_getElem hi])
  · rintro rfl
    refine ⟨_, rfl, List.length_mapIdx, ?_⟩
    rintro before c behind image rfl hpiece
    rw [h]
    simpa [eq_comm] using hpiece

/-- Where the neighbours make no difference the pieces are the images of the characters. -/
theorem isMadeOf_iff_flatMap {piece : Char → Text}
    (h : ∀ before c behind image, suits before c behind image ↔ image = piece c) :
    IsMadeOf suits text image ↔ image = text.flatMap piece := by
  have hpieces : (text.mapIdx fun _ c ↦ piece c) = text.map piece :=
    List.ext_getElem (by simp) (by simp)
  rw [List.flatMap_def, ← hpieces]
  exact isMadeOf_iff h

/-! ### The words around a sigma -/

/-- The last character of a text that is not passed over is a cased one. -/
def EndsCased (text : Text) : Prop :=
  ∃ start c passed, text = start ++ c :: passed ∧ isCased c = true ∧ isCaseIgnorable c = false ∧
    ∀ d ∈ passed, isCaseIgnorable d = true

/-- The first character of a text that is not passed over is a cased one. -/
def BeginsCased (text : Text) : Prop :=
  ∃ passed c rest, text = passed ++ c :: rest ∧ isCased c = true ∧ isCaseIgnorable c = false ∧
    ∀ d ∈ passed, isCaseIgnorable d = true

theorem beginsCased_iff : BeginsCased text ↔ reachesCased text = true := by
  constructor
  · rintro ⟨passed, c, rest, rfl, hcased, hstop, hpassed⟩
    rw [reachesCased, List.dropWhile_append_of_pos hpassed,
      List.dropWhile_cons_of_neg (by simp [hstop])]
    exact hcased
  · intro h
    rw [reachesCased] at h
    cases hrest : text.dropWhile isCaseIgnorable with
    | nil => simp [hrest] at h
    | cons c rest =>
      rw [hrest] at h
      refine ⟨text.takeWhile isCaseIgnorable, c, rest, ?_, h, ?_, ?_⟩
      · rw [← hrest, List.takeWhile_append_dropWhile]
      · simpa [hrest] using List.head?_dropWhile_not isCaseIgnorable text
      · exact fun d hd ↦ List.mem_takeWhile_imp hd

theorem endsCased_iff : EndsCased text ↔ reachesCased text.reverse = true := by
  rw [← beginsCased_iff]
  constructor
  · rintro ⟨start, c, passed, rfl, hcased, hstop, hpassed⟩
    exact ⟨passed.reverse, c, start.reverse, by simp, hcased, hstop, by simpa using hpassed⟩
  · rintro ⟨passed, c, rest, htext, hcased, hstop, hpassed⟩
    refine ⟨rest.reverse, c, passed.reverse, ?_, hcased, hstop, by simpa using hpassed⟩
    simpa using congrArg List.reverse htext

/-- A capital sigma between two texts ends a word. -/
def EndsWord (before behind : Text) : Prop :=
  EndsCased before ∧ ¬ BeginsCased behind

theorem endsWord_iff {before behind : Text} : EndsWord before behind ↔
    (reachesCased before.reverse && !reachesCased behind) = true := by
  rw [EndsWord, endsCased_iff, beginsCased_iff]
  simp

/-! ### The four mappings -/

/-- Every character is replaced by its uppercase mapping. -/
def Uppercases (text image : Text) : Prop :=
  IsMadeOf (fun _ c _ piece ↦ piece = upper c) text image

/-- What stands for a character in a lowercase text: its lowercase mapping, or one of the two small
sigmas for a capital sigma, depending on whether it ends a word. -/
structure SuitsLowercase (before : Text) (c : Char) (behind piece : Text) : Prop where
  of_ne : c ≠ 'Σ' → piece = lower c
  of_endsWord : c = 'Σ' → EndsWord before behind → piece = ['ς']
  of_not_endsWord : c = 'Σ' → ¬ EndsWord before behind → piece = ['σ']

/-- Every character is replaced by what stands for it in a lowercase text. -/
def Lowercases (text image : Text) : Prop :=
  IsMadeOf SuitsLowercase text image

/-- The first character is replaced by its uppercase mapping, and the rest is lowercased as a text
of its own. -/
inductive Capitalizes : Text → Text → Prop
  | nil : Capitalizes [] []
  | cons {first : Char} {rest image : Text} (hrest : Lowercases rest image) :
      Capitalizes (first :: rest) (upper first ++ image)

/-- What stands for a character in a text with the case flipped. -/
structure SuitsSwapped (c : Char) (piece : Text) : Prop where
  of_uppercase : isUppercase c = true → piece = lower c
  of_lowercase : isUppercase c = false → isLowercase c = true → piece = upper c
  of_neither : isUppercase c = false → isLowercase c = false → piece = [c]

/-- Every character is replaced by what stands for it in a text with the case flipped. -/
def SwapsCase (text image : Text) : Prop :=
  IsMadeOf (fun _ c _ piece ↦ SuitsSwapped c piece) text image

theorem suitsLowercase_iff (before : Text) (c : Char) (behind piece : Text) :
    SuitsLowercase before c behind piece ↔ piece =
      if c = 'Σ' then if reachesCased before.reverse && !reachesCased behind then ['ς'] else ['σ']
      else lower c := by
  by_cases hsigma : c = 'Σ'
  · by_cases hends : EndsWord before behind
    · rw [if_pos hsigma, if_pos (endsWord_iff.mp hends)]
      exact ⟨fun h ↦ h.of_endsWord hsigma hends,
        fun h ↦ ⟨absurd hsigma, fun _ _ ↦ h, fun _ ↦ absurd hends⟩⟩
    · rw [if_pos hsigma, if_neg (endsWord_iff.not.mp hends)]
      exact ⟨fun h ↦ h.of_not_endsWord hsigma hends,
        fun h ↦ ⟨absurd hsigma, fun _ hword ↦ absurd hword hends, fun _ _ ↦ h⟩⟩
  · rw [if_neg hsigma]
    exact ⟨fun h ↦ h.of_ne hsigma,
      fun h ↦ ⟨fun _ ↦ h, fun heq ↦ absurd heq hsigma, fun heq ↦ absurd heq hsigma⟩⟩

theorem suitsSwapped_iff {c : Char} {piece : Text} : SuitsSwapped c piece ↔
    piece = if isUppercase c then lower c else if isLowercase c then upper c else [c] := by
  cases hupper : isUppercase c with
  | true =>
    exact ⟨fun h ↦ h.of_uppercase hupper,
      fun h ↦ ⟨fun _ ↦ h, by simp [hupper], by simp [hupper]⟩⟩
  | false =>
    cases hlower : isLowercase c with
    | true =>
      exact ⟨fun h ↦ h.of_lowercase hupper hlower,
        fun h ↦ ⟨by simp [hupper], fun _ _ ↦ h, by simp [hlower]⟩⟩
    | false =>
      exact ⟨fun h ↦ h.of_neither hupper hlower,
        fun h ↦ ⟨by simp [hupper], by simp [hlower], fun _ _ ↦ h⟩⟩

theorem uppercases_iff : Uppercases text image ↔ image = Text.upcase text :=
  isMadeOf_iff_flatMap fun _ _ _ _ ↦ Iff.rfl

theorem swapsCase_iff : SwapsCase text image ↔ image = Text.swapCase text :=
  isMadeOf_iff_flatMap fun _ _ _ _ ↦ suitsSwapped_iff

/-- Lowercasing a text behind another replaces each character between all that is before it and all
that is behind it. -/
theorem downcaseAfter_eq (before text : Text) :
    Text.downcaseAfter before text = (text.mapIdx fun i c ↦
      if c = 'Σ' then
        if reachesCased (before.reverse ++ text.take i).reverse &&
          !reachesCased (text.drop (i + 1)) then ['ς'] else ['σ']
      else lower c).flatten := by
  induction text generalizing before with
  | nil => rfl
  | cons c text ih =>
    rw [Text.downcaseAfter, ih, List.mapIdx_cons, List.flatten_cons]
    simp

theorem lowercases_iff : Lowercases text image ↔ image = Text.downcase text := by
  rw [Lowercases, isMadeOf_iff suitsLowercase_iff, Text.downcase, downcaseAfter_eq]
  rfl

theorem capitalizes_iff : Capitalizes text image ↔ image = Text.capitalize text := by
  constructor
  · rintro (_ | hrest)
    · rfl
    · rw [lowercases_iff.mp hrest, Text.capitalize]
  · rintro rfl
    cases text with
    | nil => exact .nil
    | cons first rest => exact .cons (lowercases_iff.mpr rfl)

/-! ### ASCII texts -/

namespace Text

/-- The first character as a capital and the others as small letters. -/
def capitalLetter : Text → Text
  | [] => []
  | first :: rest => first.toUpper :: rest.map Char.toLower

theorem upcase_of_isAscii (h : ∀ c ∈ text, isAscii c = true) :
    upcase text = text.map Char.toUpper := by
  rw [upcase, List.map_eq_flatMap]
  exact List.flatMap_congr fun c hmem ↦ upper_of_isAscii (h c hmem)

/-- No ASCII character is a capital sigma, so the neighbours make no difference. -/
theorem downcaseAfter_of_isAscii (h : ∀ c ∈ text, isAscii c = true) (before : Text) :
    downcaseAfter before text = text.map Char.toLower := by
  induction text generalizing before with
  | nil => rfl
  | cons c text ih =>
    obtain ⟨hfirst, hrest⟩ := List.forall_mem_cons.mp h
    have hsigma : c ≠ 'Σ' := by
      rintro rfl
      exact absurd hfirst (by decide)
    rw [downcaseAfter, if_neg hsigma, ih hrest, lower_of_isAscii hfirst, List.map_cons,
      List.singleton_append]

theorem downcase_of_isAscii (h : ∀ c ∈ text, isAscii c = true) :
    downcase text = text.map Char.toLower :=
  downcaseAfter_of_isAscii h []

theorem capitalize_of_isAscii (h : ∀ c ∈ text, isAscii c = true) :
    capitalize text = capitalLetter text := by
  cases text with
  | nil => rfl
  | cons first rest =>
    obtain ⟨hfirst, hrest⟩ := List.forall_mem_cons.mp h
    rw [capitalize, upper_of_isAscii hfirst, downcase_of_isAscii hrest]
    rfl

end Text

end Interning
