import Interning.Settings
import Mathlib.Data.List.TakeWhile

/-!
# Where the setup of a registry comes from

A key of the setup has three sources. The file comes first, then the variable of the environment,
then the default (`InEffect`). A variable counts if a word or a truth value can be read from it,
which is said here of its text and not of the reader: blanks at either end (`Text.Pads`) around a
sign and digits (`WritesWord`), or around one of the spellings of a truth value (`WritesFlag`).

`Settings.layers` proves this of each of the four keys, and no key depends on another one.
-/

set_option autoImplicit false
set_option relaxedAutoImplicit false

namespace Interning

/-! ### Blanks at the ends -/

namespace Text

variable {text middle : Text}

/-- A text is another one with blanks before and after it. -/
def Pads (text middle : Text) : Prop :=
  ∃ before after, text = before ++ (middle ++ after) ∧
    (∀ c ∈ before, Unicode.isBlank c = true) ∧ ∀ c ∈ after, Unicode.isBlank c = true

/-- The blanks that are dropped are the first characters that are blank. -/
theorem dropWhile_blanks {before rest : Text} (hbefore : ∀ c ∈ before, Unicode.isBlank c = true)
    (hrest : ∀ c ∈ rest.head?, Unicode.isBlank c = false) :
    (before ++ rest).dropWhile Unicode.isBlank = rest := by
  rw [List.dropWhile_append_of_pos hbefore]
  cases rest with
  | nil => rfl
  | cons c rest =>
    have hc : Unicode.isBlank c = false := hrest c rfl
    rw [List.dropWhile_cons_of_neg (by simp [hc])]

theorem pads_trim (text : Text) : text.Pads text.trim := by
  have hfirst : text.takeWhile Unicode.isBlank ++ text.dropWhile Unicode.isBlank = text :=
    List.takeWhile_append_dropWhile
  let rest := (text.dropWhile Unicode.isBlank).reverse
  have hlast : rest.takeWhile Unicode.isBlank ++ rest.dropWhile Unicode.isBlank = rest :=
    List.takeWhile_append_dropWhile
  refine ⟨text.takeWhile Unicode.isBlank, (rest.takeWhile Unicode.isBlank).reverse, ?_, ?_, ?_⟩
  · rw [trim, ← List.reverse_append, hlast, List.reverse_reverse, hfirst]
  · exact fun c hc ↦ List.mem_takeWhile_imp hc
  · exact fun c hc ↦ List.mem_takeWhile_imp (List.mem_reverse.mp hc)

theorem Pads.trim_eq (h : text.Pads middle) (hne : middle ≠ [])
    (hmiddle : ∀ c ∈ middle, Unicode.isBlank c = false) : text.trim = middle := by
  obtain ⟨before, after, rfl, hbefore, hafter⟩ := h
  have hhead : ∀ c ∈ (middle ++ after).head?, Unicode.isBlank c = false := by
    intro c hc
    obtain ⟨first, rest, rfl⟩ := List.exists_cons_of_ne_nil hne
    obtain rfl : first = c := Option.some.inj hc
    exact hmiddle first List.mem_cons_self
  have hlast : ∀ c ∈ middle.reverse.head?, Unicode.isBlank c = false :=
    fun c hc ↦ hmiddle c (List.mem_reverse.mp (List.mem_of_mem_head? hc))
  rw [trim, dropWhile_blanks hbefore hhead, List.reverse_append,
    dropWhile_blanks (fun c hc ↦ hafter c (List.mem_reverse.mp hc)) hlast, List.reverse_reverse]

end Text

/-! ### Words and truth values -/

/-- A text writes a word: decimal digits, at most one plus sign before them. -/
def WritesWord (text : Text) (word : UInt64) : Prop :=
  ∃ sign digits, text = sign ++ digits ∧ (sign = [] ∨ sign = ['+']) ∧ digits ≠ [] ∧
    (∀ c ∈ digits, c.isDigit = true) ∧ Nat.ofDigitChars 10 digits 0 = word.toNat

/-- The spellings of a truth value, in small letters. -/
def flagSpellings : Bool → List Text
  | true => [['1'], "true".toList]
  | false => [['0'], "false".toList]

/-- A text writes a truth value, in small letters or capital ones. -/
def WritesFlag (text : Text) (flag : Bool) : Prop :=
  text.map Char.toLower ∈ flagSpellings flag

variable {text : Text} {word : UInt64} {flag : Bool}

theorem digits?_eq_some_iff {n : Nat} : Numeral.digits? text = some n ↔
    text ≠ [] ∧ (∀ c ∈ text, c.isDigit = true) ∧ Nat.ofDigitChars 10 text 0 = n := by
  unfold Numeral.digits?
  split
  · next hdigits => simp_all
  · next hdigits =>
    simp only [Bool.and_eq_true, Bool.not_eq_true', List.isEmpty_eq_false_iff,
      List.all_eq_true] at hdigits
    simp only [reduceCtorEq, false_iff]
    rintro ⟨hne, hall, -⟩
    exact hdigits ⟨hne, hall⟩

theorem exists_sign (text : Text) :
    ∃ sign, text = sign ++ text.skip '+' ∧ (sign = [] ∨ sign = ['+']) := by
  match text with
  | [] => exact ⟨[], rfl, .inl rfl⟩
  | c :: rest =>
    by_cases hc : c = '+'
    · exact ⟨['+'], by simp [Text.skip, hc], .inr rfl⟩
    · exact ⟨[], by simp [Text.skip, hc], .inl rfl⟩

/-- Digits do not begin with a sign. -/
theorem skip_append_digits {sign digits : Text} (hsign : sign = [] ∨ sign = ['+'])
    (hdigits : ∀ c ∈ digits, c.isDigit = true) : (sign ++ digits).skip '+' = digits := by
  rcases hsign with rfl | rfl
  · cases digits with
    | nil => rfl
    | cons c rest =>
      have hc : c ≠ '+' := by
        rintro rfl
        exact absurd (hdigits '+' List.mem_cons_self) (by decide)
      exact if_neg hc
  · rfl

theorem word?_eq_some_iff : Numeral.word? text = some word ↔ WritesWord text word := by
  unfold Numeral.word?
  constructor
  · intro hword
    obtain ⟨sign, htext, hsign⟩ := exists_sign text
    split at hword
    · next n hn =>
      obtain ⟨hne, hdigits, hvalue⟩ := digits?_eq_some_iff.mp hn
      split at hword
      · next hlt =>
        obtain rfl := Option.some.inj hword
        exact ⟨sign, _, htext, hsign, hne, hdigits, by
          rw [hvalue, UInt64.toNat_ofNat_of_lt' hlt]⟩
      · cases hword
    · cases hword
  · rintro ⟨sign, digits, rfl, hsign, hne, hdigits, hvalue⟩
    have hread : Numeral.digits? digits = some word.toNat :=
      digits?_eq_some_iff.mpr ⟨hne, hdigits, hvalue⟩
    simp only [skip_append_digits hsign hdigits, hread]
    rw [if_pos word.toNat_lt, UInt64.ofNat_toNat]

/-- No blank is a graphic character of ASCII. -/
theorem toNat_of_isBlank {c : Char} (hc : Unicode.isBlank c = true) :
    c.toNat ≤ 0x20 ∨ 0x85 ≤ c.toNat := by
  simp only [Unicode.isBlank, Bool.or_eq_true, Bool.and_eq_true, decide_eq_true_eq,
    beq_iff_eq] at hc
  omega

theorem isBlank_of_isDigit {c : Char} (hc : c.isDigit = true) : Unicode.isBlank c = false := by
  by_contra hblank
  have hrange := toNat_of_isDigit hc
  have hends := toNat_of_isBlank (Bool.not_eq_false _ ▸ hblank)
  omega

/-- A blank is no capital letter. -/
theorem toLower_of_isBlank {c : Char} (hc : Unicode.isBlank c = true) : c.toLower = c := by
  unfold Char.toLower
  split
  · next hcapital =>
    have hrange : 65 ≤ c.toNat ∧ c.toNat ≤ 90 := by
      simpa [UInt32.le_iff_toNat_le] using hcapital
    have hends := toNat_of_isBlank hc
    omega
  · rfl

theorem WritesWord.ne_nil (h : WritesWord text word) : text ≠ [] := by
  obtain ⟨sign, digits, rfl, -, hne, -⟩ := h
  exact List.append_ne_nil_of_right_ne_nil sign hne

theorem WritesFlag.ne_nil (h : WritesFlag text flag) : text ≠ [] := by
  rintro rfl
  cases flag <;> simp [WritesFlag, flagSpellings] at h

theorem WritesWord.isBlank_eq_false (h : WritesWord text word) :
    ∀ c ∈ text, Unicode.isBlank c = false := by
  obtain ⟨sign, digits, rfl, hsign, -, hdigits, -⟩ := h
  intro c hc
  rcases List.mem_append.mp hc with hc | hc
  · rcases hsign with rfl | rfl
    · exact absurd hc List.not_mem_nil
    · rw [List.mem_singleton.mp hc]
      decide
  · exact isBlank_of_isDigit (hdigits c hc)

theorem WritesFlag.isBlank_eq_false (h : WritesFlag text flag) :
    ∀ c ∈ text, Unicode.isBlank c = false := by
  have hspelled : ∀ spelling ∈ flagSpellings flag, spelling.any Unicode.isBlank = false := by
    cases flag <;> decide
  intro c hc
  by_contra hblank
  rw [Bool.not_eq_false] at hblank
  have hlower := List.any_eq_false.mp (hspelled _ h) _ (List.mem_map_of_mem hc)
  rw [toLower_of_isBlank hblank] at hlower
  exact hlower hblank

/-! ### Variables -/

/-- A variable of the environment holds a value if its text writes it, blanks at the ends apart. -/
def Environment.Holds {α : Type} (environment : Environment) (name : String)
    (writes : Text → α → Prop) (value : α) : Prop :=
  ∃ text middle, environment.lookup name = some text ∧ text.Pads middle ∧ writes middle value

variable {environment : Environment} {name : String}

/-- What is written without blanks is what stands between the blanks. -/
theorem Environment.holds_iff {α : Type} {writes : Text → α → Prop} {value : α}
    (hne : ∀ middle, writes middle value → middle ≠ [])
    (hblank : ∀ middle, writes middle value → ∀ c ∈ middle, Unicode.isBlank c = false) :
    environment.Holds name writes value ↔
      ∃ text, environment.lookup name = some text ∧ writes text.trim value := by
  constructor
  · rintro ⟨text, middle, hlookup, hpads, hwrites⟩
    refine ⟨text, hlookup, ?_⟩
    rwa [hpads.trim_eq (hne middle hwrites) (hblank middle hwrites)]
  · rintro ⟨text, hlookup, hwrites⟩
    exact ⟨text, text.trim, hlookup, text.pads_trim, hwrites⟩

namespace RegistryConfig

theorem wordVariable_eq_some_iff :
    wordVariable environment name = some word ↔ environment.Holds name WritesWord word := by
  rw [Environment.holds_iff (fun _ ↦ WritesWord.ne_nil) (fun _ ↦ WritesWord.isBlank_eq_false),
    wordVariable, Option.bind_eq_some_iff]
  simp only [word?_eq_some_iff]

theorem flagVariable_eq_some_iff :
    flagVariable environment name = some flag ↔ environment.Holds name WritesFlag flag := by
  have hspelled (word : Text) :
      (if word = ['1'] || word = "true".toList then some true
        else if word = ['0'] || word = "false".toList then some false
        else none) = some flag ↔ word ∈ flagSpellings flag := by
    constructor
    · intro hread
      split at hread
      · next htrue =>
        obtain rfl := Option.some.inj hread
        simpa [flagSpellings] using htrue
      · split at hread
        · next hfalse =>
          obtain rfl := Option.some.inj hread
          simpa [flagSpellings] using hfalse
        · cases hread
    · intro hword
      cases flag <;> simp only [flagSpellings, List.mem_cons, List.not_mem_nil, or_false] at hword
        <;> rcases hword with rfl | rfl <;> rfl
  rw [Environment.holds_iff (fun _ ↦ WritesFlag.ne_nil) (fun _ ↦ WritesFlag.isBlank_eq_false),
    flagVariable, Option.bind_eq_some_iff]
  simp only [hspelled, WritesFlag]

end RegistryConfig

/-! ### The value in effect -/

/-- The value in effect for a key is the file's, else the variable's if it holds one, else the
default. -/
inductive InEffect {α : Type} (file : Option α) (held : α → Prop) (base : α) : α → Prop
  | file {value : α} (hfile : file = some value) : InEffect file held base value
  | environment {value : α} (hfile : file = none) (hheld : held value) :
      InEffect file held base value
  | default (hfile : file = none) (hheld : ∀ value, ¬ held value) : InEffect file held base base

theorem inEffect_iff {α : Type} {file read : Option α} {held : α → Prop} {base value : α}
    (hread : ∀ value, read = some value ↔ held value) :
    file.getD (read.getD base) = value ↔ InEffect file held base value := by
  constructor
  · rintro rfl
    cases file with
    | some set => exact .file rfl
    | none =>
      cases hnone : read with
      | some found => exact .environment rfl ((hread found).mp hnone)
      | none =>
        refine .default rfl fun value hheld ↦ ?_
        rw [(hread value).mpr hheld] at hnone
        cases hnone
  · intro heffect
    cases heffect with
    | file hfile => rw [hfile, Option.getD_some]
    | environment hfile hheld =>
      rw [hfile, Option.getD_none, (hread value).mpr hheld, Option.getD_some]
    | default hfile hheld =>
      have hnone : read = none :=
        Option.eq_none_iff_forall_ne_some.mpr fun found hfound ↦
          hheld found ((hread found).mp hfound)
      rw [hfile, Option.getD_none, hnone, Option.getD_none]

/-- Every key of a setup has the value in effect for it. -/
structure Settings.Layers (settings : Settings) (machine : Machine) (environment : Environment) :
    Prop where
  sequenceFloor : ∀ floor,
    (settings.registryConfig machine environment).sequenceFloor = floor ↔
      InEffect settings.registry.sequenceFloor
        (environment.Holds "RUBRIC_SYM_SEQUENCE_FLOOR" WritesWord)
        (RegistryConfig.default machine).sequenceFloor floor
  initialCapacity : ∀ capacity,
    (settings.registryConfig machine environment).initialCapacity = capacity ↔
      InEffect settings.registry.initialCapacity
        (environment.Holds "RUBRIC_SYM_CAPACITY" WritesWord)
        (RegistryConfig.default machine).initialCapacity capacity
  shardAmount : ∀ shards,
    (settings.registryConfig machine environment).shardAmount = shards ↔
      InEffect settings.registry.shardAmount
        (environment.Holds "RUBRIC_SYM_SHARDS" WritesWord)
        (RegistryConfig.default machine).shardAmount shards
  statsEnabled : ∀ stats,
    (settings.registryConfig machine environment).statsEnabled = stats ↔
      InEffect settings.registry.statsEnabled
        (environment.Holds "RUBRIC_SYM_STATS" WritesFlag)
        (RegistryConfig.default machine).statsEnabled stats

theorem Settings.layers (settings : Settings) (machine : Machine) (environment : Environment) :
    settings.Layers machine environment where
  sequenceFloor _ := inEffect_iff fun _ ↦ RegistryConfig.wordVariable_eq_some_iff
  initialCapacity _ := inEffect_iff fun _ ↦ RegistryConfig.wordVariable_eq_some_iff
  shardAmount _ := inEffect_iff fun _ ↦ RegistryConfig.wordVariable_eq_some_iff
  statsEnabled _ := inEffect_iff fun _ ↦ RegistryConfig.flagVariable_eq_some_iff

end Interning
