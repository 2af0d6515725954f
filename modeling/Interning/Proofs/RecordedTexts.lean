import Interning.Proofs.Exhaustion
import Mathlib.Data.Finset.Card
import Mathlib.Order.Interval.Finset.Nat

/-!
# The texts that names leave recorded

Interning a name records the name, interning a setter also what stands before its sign, and nothing
else is recorded. What a list of names needs recorded is therefore a set that can be read off the
list (`Batch.required`), and an interning that answers adds this set to the recorded texts and
nothing more (`Table.Interns.textSet_eq`), whichever of the texts are recorded already.

The set also tells how many sequence numbers are in use. Of the recorded texts, the plain names and
no others have a number, so the counter stands that far above the floor
(`Table.WellFormed.card_isPlain`). Where there is a number for every plain name that a text needs
recorded, interning the text answers (`Table.WellFormed.exists_intern_eq_ok`).
-/

set_option autoImplicit false
set_option relaxedAutoImplicit false

namespace Interning

instance : DecidablePred IsPlain :=
  fun text ↦ inferInstanceAs (Decidable (classify text ≠ .operator ∧ classify text ≠ .setter))

/-! ### What a list of names needs -/

/-- The texts of the operators. -/
def Token.texts : Finset Text :=
  (Token.all.map Token.text).toFinset

theorem Token.mem_texts_iff {text : Text} : text ∈ Token.texts ↔ classify text = .operator := by
  rw [texts, List.mem_toFinset, List.mem_map, classify_eq_operator_iff]

theorem Token.card_texts : Token.texts.card = 31 :=
  List.toFinset_card_of_nodup (l := Token.all.map Token.text) (by decide)

namespace Batch

/-- The setters among names. -/
def setters (names : List Text) : Finset Text :=
  names.toFinset.filter (classify · = .setter)

/-- The texts that names need recorded: the names, and what stands before the signs of their
setters. -/
def required (names : List Text) : Finset Text :=
  names.toFinset ∪ (setters names).image List.dropLast

/-- The texts that names add to the operators. -/
def recorded (names : List Text) : Finset Text :=
  required names \ Token.texts

variable {text base : Text} {names : List Text}

theorem mem_required_iff :
    text ∈ required names ↔
      text ∈ names ∨ ∃ name ∈ names, classify name = .setter ∧ name.dropLast = text := by
  simp only [required, setters, Finset.mem_union, List.mem_toFinset, Finset.mem_image,
    Finset.mem_filter, and_assoc]

theorem required_nil : required [] = ∅ := rfl

theorem required_cons (name : Text) (names : List Text) :
    required (name :: names) = required [name] ∪ required names := by
  ext text
  simp only [mem_required_iff, Finset.mem_union, List.mem_cons, List.not_mem_nil, or_false,
    exists_eq_or_imp, exists_eq_left]
  tauto

theorem required_singleton_of_isPlain (hplain : IsPlain text) : required [text] = {text} := by
  ext other
  simp [mem_required_iff, hplain.2]

theorem required_singleton_setter (hscope : classify (base ++ ['=']) = .setter) :
    required [base ++ ['=']] = {base ++ ['='], base} := by
  ext other
  simp [mem_required_iff, hscope, eq_comm]

/-- A setter needs no more than itself where the name before its sign is present. -/
theorem union_required_setter {texts : Finset Text} (hscope : classify (base ++ ['=']) = .setter)
    (hbase : base ∈ texts) :
    texts ∪ required [base ++ ['=']] = texts ∪ {base ++ ['=']} := by
  rw [required_singleton_setter hscope, Finset.pair_comm, Finset.union_insert,
    Finset.insert_eq_of_mem (Finset.mem_union_left _ hbase)]

/-- What names need recorded beside themselves are plain names. -/
theorem mem_or_isPlain_of_mem_required (htext : text ∈ required names) :
    text ∈ names ∨ IsPlain text := by
  rcases mem_required_iff.mp htext with hname | ⟨name, -, hscope, rfl⟩
  · exact .inl hname
  · obtain ⟨base, rfl, -, -⟩ := exists_base_of_classify_eq_setter hscope
    rw [List.dropLast_concat]
    exact .inr (Table.isPlain_of_classify_eq_setter hscope)

theorem mem_recorded_iff :
    text ∈ recorded names ↔ text ∈ required names ∧ classify text ≠ .operator := by
  rw [recorded, Finset.mem_sdiff, Token.mem_texts_iff]

/-- The recorded texts that take numbers are those that the names add and that are no setters. -/
theorem filter_isPlain_union_required :
    (Token.texts ∪ required names).filter IsPlain =
      (recorded names).filter (classify · ≠ .setter) := by
  ext text
  simp only [Finset.mem_filter, Finset.mem_union, Token.mem_texts_iff, mem_recorded_iff, IsPlain]
  tauto

end Batch

namespace Table

variable {floor : UInt64} {table after : Table} {text : Text} {id : SymbolId}

/-! ### The recorded texts as a set -/

/-- The set of the recorded texts. -/
def textSet (table : Table) : Finset Text :=
  table.texts.toFinset

theorem WellFormed.mem_textSet_iff (h : table.WellFormed floor) :
    text ∈ table.textSet ↔ (table.lookup text).isSome = true := by
  rw [textSet, List.mem_toFinset, h.mem_texts_iff]

theorem WellFormed.card_textSet (h : table.WellFormed floor) : table.textSet.card = table.size := by
  rw [textSet, List.toFinset_card_of_nodup h.nodup_texts, texts, List.length_map,
    length_records]

theorem WellFormed.card_filter_textSet (h : table.WellFormed floor) (scope : Scope) :
    (table.textSet.filter (classify · = scope)).card = table.countScope scope := by
  have hfilter : table.textSet.filter (classify · = scope) =
      (table.texts.filter (classify · == scope)).toFinset := by
    ext text
    simp [textSet]
  rw [hfilter, List.toFinset_card_of_nodup (h.nodup_texts.filter _), h.countScope_eq,
    List.countP_eq_length_filter]

theorem SameNames.textSet_eq (h : table.SameNames after) : after.textSet = table.textSet := by
  rw [textSet, textSet, texts, texts, h.records_eq]

/-- What a recorded text needs is recorded. -/
theorem WellFormed.required_subset (h : table.WellFormed floor)
    (hlookup : table.lookup text = some id) : Batch.required [text] ⊆ table.textSet := by
  intro other hother
  rw [h.mem_textSet_iff]
  rcases Batch.mem_required_iff.mp hother with hname | ⟨name, hname, hscope, rfl⟩
  · obtain rfl := List.mem_singleton.mp hname
    rw [hlookup]
    rfl
  · obtain rfl := List.mem_singleton.mp hname
    obtain ⟨base, rfl, -, -⟩ := exists_base_of_classify_eq_setter hscope
    obtain ⟨sequence, hnumber, -⟩ := h.numbers_of_lookup_setter hscope hlookup
    rw [List.dropLast_concat, hnumber.lookup_eq]
    rfl

/-- A record adds its text to those that are found. -/
theorem isSome_lookup_insert (table : Table) (text other : Text) (id : SymbolId) :
    ((table.insert text id).lookup other).isSome = true ↔
      other = text ∨ (table.lookup other).isSome = true := by
  rw [lookup_insert]
  by_cases htext : text = other
  · simp [htext]
  · simp [htext, Ne.symm htext]

theorem isSome_lookup_recordPlain (table : Table) (text other : Text) :
    ((table.recordPlain text).lookup other).isSome = true ↔
      other = text ∨ (table.lookup other).isSome = true :=
  isSome_lookup_insert _ text other _

theorem isSome_lookup_recordSetter (table : Table) (base : Text) (sequence : UInt64)
    (other : Text) :
    ((table.recordSetter base sequence).lookup other).isSome = true ↔
      other = base ++ ['='] ∨ (table.lookup other).isSome = true :=
  isSome_lookup_insert _ _ other _

/-- An interning that answers records what its text needs. -/
theorem Interns.textSet_eq (hinterns : table.Interns floor text (.ok id, after))
    (h : table.WellFormed floor) : after.textSet = table.textSet ∪ Batch.required [text] := by
  have hafter := (hinterns.grows h).wellFormed
  have hmiss := sameNames_countMiss table
  cases hinterns with
  | known hlookup =>
    rw [(sameNames_countHit table).textSet_eq, Finset.union_eq_left.mpr (h.required_subset hlookup)]
  | plain hnone hplain hlast =>
    ext other
    rw [hafter.mem_textSet_iff, Finset.mem_union, h.mem_textSet_iff, isSome_lookup_recordPlain,
      hmiss.lookup_eq, Batch.required_singleton_of_isPlain hplain, Finset.mem_singleton, or_comm]
  | @setter base sequence hnone hscope hnumber =>
    have hsame := hmiss.trans (sameNames_countHit table.countMiss)
    have hbase : base ∈ table.textSet := by
      rw [h.mem_textSet_iff, hnumber.lookup_eq]
      rfl
    rw [Batch.union_required_setter hscope hbase]
    ext other
    rw [hafter.mem_textSet_iff, Finset.mem_union, h.mem_textSet_iff, isSome_lookup_recordSetter,
      hsame.lookup_eq, Finset.mem_singleton, or_comm]
  | @setterAndBase base hnone hscope hbase hlast =>
    have hsame := hmiss.trans (sameNames_countMiss table.countMiss)
    ext other
    rw [hafter.mem_textSet_iff, Finset.mem_union, h.mem_textSet_iff, isSome_lookup_recordSetter,
      isSome_lookup_recordPlain, hsame.lookup_eq, Batch.required_singleton_setter hscope,
      Finset.mem_insert, Finset.mem_singleton, ← or_assoc, or_comm]

/-! ### Sequence numbers -/

/-- The sequence number of a recorded text. -/
def number (table : Table) (text : Text) : Nat :=
  ((table.lookup text).map fun id ↦ id.sequence.toNat).getD 0

theorem Numbers.number_eq {sequence : UInt64} (hnumber : table.Numbers floor text sequence)
    (h : table.WellFormed floor) : table.number text = sequence.toNat := by
  rw [number, hnumber.lookup_eq, Option.map_some, Option.getD_some,
    SymbolId.sequence_dynamic (hnumber.low h) (hnumber.high h)]

theorem WellFormed.mem_filter_isPlain_iff (h : table.WellFormed floor) :
    text ∈ table.textSet.filter IsPlain ↔ ∃ sequence, table.Numbers floor text sequence := by
  rw [Finset.mem_filter, h.mem_textSet_iff, h.exists_numbers_iff, and_comm]

/-- The counter stands as far above the floor as there are plain names. -/
theorem WellFormed.card_isPlain (h : table.WellFormed floor) :
    floor.toNat + (table.textSet.filter IsPlain).card = table.lastSequence.toNat := by
  have hinjective : Set.InjOn table.number (table.textSet.filter IsPlain) := by
    intro text htext other hother heq
    obtain ⟨sequence, hnumber⟩ := h.mem_filter_isPlain_iff.mp htext
    obtain ⟨sequence', hnumber'⟩ := h.mem_filter_isPlain_iff.mp hother
    rw [hnumber.number_eq h, hnumber'.number_eq h] at heq
    obtain rfl := UInt64.toNat_inj.mp heq
    exact h.number_unique _ _ _ hnumber hnumber'
  have himage : (table.textSet.filter IsPlain).image table.number =
      Finset.Ioc floor.toNat table.lastSequence.toNat := by
    ext n
    rw [Finset.mem_image, Finset.mem_Ioc]
    constructor
    · rintro ⟨text, htext, rfl⟩
      obtain ⟨sequence, hnumber⟩ := h.mem_filter_isPlain_iff.mp htext
      rw [hnumber.number_eq h]
      exact ⟨UInt64.lt_iff_toNat_lt.mp hnumber.floor_lt, UInt64.le_iff_toNat_le.mp hnumber.le_last⟩
    · rintro ⟨hlow, hhigh⟩
      have hn : (UInt64.ofNat n).toNat = n :=
        UInt64.toNat_ofNat_of_lt' (Nat.lt_of_le_of_lt hhigh table.lastSequence.toNat_lt)
      obtain ⟨text, hnumber⟩ := h.number_taken (UInt64.ofNat n)
        (UInt64.lt_iff_toNat_lt.mpr (by rwa [hn])) (UInt64.le_iff_toNat_le.mpr (by rwa [hn]))
      exact ⟨text, h.mem_filter_isPlain_iff.mpr ⟨_, hnumber⟩, (hnumber.number_eq h).trans hn⟩
  have hle := UInt64.le_iff_toNat_le.mp h.floor_le
  rw [← Finset.card_image_of_injOn hinjective, himage, Nat.card_Ioc]
  omega

/-- An interning answers where there is a number for every plain name that is recorded or that the
text needs. -/
theorem WellFormed.exists_intern_eq_ok (h : table.WellFormed floor)
    (hroom : floor.toNat + ((table.textSet ∪ Batch.required [text]).filter IsPlain).card ≤
      SymbolId.maxSequence.toNat) :
    ∃ id after, table.intern text = (.ok id, after) := by
  cases hanswer : (table.intern text).1 with
  | ok id => exact ⟨id, _, Prod.ext hanswer rfl⟩
  | error fault =>
    obtain ⟨hnone, hlast, hsetter⟩ := h.intern_eq_error_iff.mp ⟨fault, hanswer⟩
    -- The text, or what stands before its sign, would be one plain name too many.
    obtain ⟨name, hname, hplain, hnew⟩ : ∃ name ∈ Batch.required [text], IsPlain name ∧
        table.lookup name = none := by
      rcases h.isPlain_or_setter hnone with hplain | hscope
      · exact ⟨text, Batch.mem_required_iff.mpr (.inl List.mem_cons_self), hplain, hnone⟩
      · obtain ⟨base, rfl, -, -⟩ := exists_base_of_classify_eq_setter hscope
        rw [List.dropLast_concat] at hsetter
        refine ⟨base, ?_, isPlain_of_classify_eq_setter hscope, by simpa [hscope] using hsetter⟩
        simp [Batch.required_singleton_setter hscope]
    have hcount := h.card_isPlain
    have hfresh : name ∉ table.textSet.filter IsPlain := by
      rw [Finset.mem_filter, h.mem_textSet_iff, hnew]
      simp
    have hsubset : Insert.insert name (table.textSet.filter IsPlain) ⊆
        (table.textSet ∪ Batch.required [text]).filter IsPlain := by
      refine Finset.insert_subset ?_ (Finset.filter_subset_filter _ Finset.subset_union_left)
      exact Finset.mem_filter.mpr ⟨Finset.mem_union_right _ hname, hplain⟩
    have hcard := Finset.card_le_card hsubset
    rw [Finset.card_insert_of_notMem hfresh] at hcard
    rw [hlast] at hcount
    omega

end Table

/-- At the start the operators are recorded. -/
theorem Registry.textSet_of_create {config : RegistryConfig} {start : Registry}
    (hstart : Registry.create config = .ok start) : start.table.textSet = Token.texts := by
  have htable := (wellFormed_of_create hstart).2
  obtain ⟨-, rfl⟩ := create_eq_ok_iff.mp hstart
  ext text
  rw [htable.mem_textSet_iff, lookup_bootstrap, Option.isSome_map, find?_isSome_iff,
    ← classify_eq_operator_iff, Token.mem_texts_iff]

/-- A new registry has as many records as there are operators, and none of another scope. -/
theorem Registry.size_of_create {config : RegistryConfig} {start : Registry}
    (hstart : Registry.create config = .ok start) :
    start.table.size = 31 ∧ ∀ scope, scope ≠ .operator → start.table.countScope scope = 0 := by
  have htable := (wellFormed_of_create hstart).2
  have htexts := textSet_of_create hstart
  constructor
  · rw [← htable.card_textSet, htexts, Token.card_texts]
  · intro scope hscope
    rw [← htable.card_filter_textSet, htexts, Finset.card_eq_zero, Finset.filter_eq_empty_iff]
    intro text htext heq
    exact hscope (heq.symm.trans (Token.mem_texts_iff.mp htext))

end Interning
