import Interning.Proofs.SymbolHandles

/-!
# Setters and their readers

A setter has no sequence number of its own: its identifier is that of the name before the sign,
with another tag. So a number is shared, and what the registry promises is who shares it.
`Registry.PairedSetters` says that a setter is recorded beside its reader and under its number, that
a reader and its setter are the only records to share a number, and that the name before the sign
of a setter, once interned, always has a tag to exchange, so that no setter is given an identifier
apart from its reader's.

`Table.WellFormed.exists_numbers_of_mem` reads the invariant for one record: a record outside the
operators' range belongs to a plain name, as the record of the name or of the name's setter. A
number has one name, which settles the rest. `Registry.Reachable.pairedSetters` is the statement
about every registry that operations lead to.
-/

set_option autoImplicit false
set_option relaxedAutoImplicit false

namespace Interning

/-- One record is that of the setter of the other's name. -/
structure Record.IsSetterOf (setter reader : Record) : Prop where
  scope_eq : setter.id.scope = .setter
  text_eq : setter.text = reader.text ++ ['=']

namespace Table

variable {floor : UInt64} {table after : Table} {text base : Text} {record other : Record}

/-! ### Records and their names -/

theorem WellFormed.lookup_of_mem (h : table.WellFormed floor) (hrecord : record ∈ table.records) :
    table.lookup record.text = some record.id :=
  h.lookup_of_get? (mem_records_iff.mp hrecord)

/-- A text has one record. -/
theorem WellFormed.eq_of_text_eq (h : table.WellFormed floor) (hrecord : record ∈ table.records)
    (hother : other ∈ table.records) (htext : record.text = other.text) : record = other := by
  have hlookup := h.lookup_of_mem hrecord
  rw [htext, h.lookup_of_mem hother] at hlookup
  cases record
  cases other
  simp_all

/-- A record outside the operators' range is that of a plain name or of the setter of one, under
the number of the name. -/
theorem WellFormed.exists_numbers_of_mem (h : table.WellFormed floor)
    (hrecord : record ∈ table.records) (hdynamic : record.id.isOperator = false) :
    ∃ base, table.Numbers floor base record.id.sequence ∧
      (record.text = base ∨
        record.text = base ++ ['='] ∧ record.id = .dynamic record.id.sequence .setter) := by
  have hlookup := h.lookup_of_mem hrecord
  obtain ⟨id, text⟩ := record
  cases h.entry text id hlookup with
  | operator htoken =>
    rw [Token.isOperator_of_mem htoken] at hdynamic
    exact absurd hdynamic (by decide)
  | plain hnumber =>
    have hsequence := SymbolId.sequence_dynamic (hnumber.low h) (hnumber.high h) (classify text)
    exact ⟨text, by rwa [hsequence], .inl rfl⟩
  | @setter base sequence hnumber hscope =>
    have hsequence := SymbolId.sequence_dynamic (hnumber.low h) (hnumber.high h) .setter
    exact ⟨base, by rwa [hsequence], .inr ⟨rfl, by rw [hsequence]⟩⟩

/-- The record of a setter has its name beside it. -/
theorem WellFormed.exists_reader (h : table.WellFormed floor) (hrecord : record ∈ table.records)
    (hscope : record.id.scope = .setter) :
    ∃ base reader, record.text = base ++ ['='] ∧ table.lookup base = some reader ∧
      reader.withScope .setter = some record.id ∧ reader.sequence = record.id.sequence := by
  have hdynamic : record.id.isOperator = false :=
    SymbolId.isOperator_eq_false_of_scope (by simp [hscope])
  obtain ⟨base, hnumber, hname | ⟨hsetter, hid⟩⟩ := h.exists_numbers_of_mem hrecord hdynamic
  · have hplain := (h.scope_eq (h.lookup_of_mem hrecord)).symm.trans hscope
    rw [hname] at hplain
    exact absurd hplain hnumber.plain.2
  · refine ⟨base, _, hsetter, hnumber.lookup_eq, ?_,
      SymbolId.sequence_dynamic (hnumber.low h) (hnumber.high h) _⟩
    rw [SymbolId.withScope_dynamic (hnumber.low h) (hnumber.high h) _ (by simp), ← hid]

/-- Two records that share a number are a reader and its setter. -/
theorem WellFormed.isSetterOf_of_sequence_eq (h : table.WellFormed floor)
    (hrecord : record ∈ table.records) (hother : other ∈ table.records) (hne : record ≠ other)
    (hdynamic : record.id.isOperator = false) (hdynamic' : other.id.isOperator = false)
    (hsequence : record.id.sequence = other.id.sequence) :
    record.IsSetterOf other ∨ other.IsSetterOf record := by
  have hscope {record : Record} {base : Text}
      (hnumber : table.Numbers floor base record.id.sequence)
      (hid : record.id = .dynamic record.id.sequence .setter) : record.id.scope = .setter := by
    rw [hid]
    exact SymbolId.scope_dynamic (hnumber.low h) (hnumber.high h) (by simp)
  obtain ⟨base, hnumber, hname⟩ := h.exists_numbers_of_mem hrecord hdynamic
  obtain ⟨base', hnumber', hname'⟩ := h.exists_numbers_of_mem hother hdynamic'
  obtain rfl := h.number_unique base base' _ hnumber (hsequence ▸ hnumber')
  rcases hname with htext | ⟨htext, hid⟩ <;> rcases hname' with htext' | ⟨htext', hid'⟩
  · exact absurd (h.eq_of_text_eq hrecord hother (htext.trans htext'.symm)) hne
  · exact .inr ⟨hscope hnumber' hid', by rw [htext', htext]⟩
  · exact .inl ⟨hscope hnumber hid, by rw [htext, htext']⟩
  · exact absurd (h.eq_of_text_eq hrecord hother (htext.trans htext'.symm)) hne

/-! ### Interning a setter -/

/-- The name before the sign of a setter is interned under a dynamic identifier. -/
theorem WellFormed.withScope_of_intern (h : table.WellFormed floor) {reader : SymbolId}
    (hscope : classify text = .setter)
    (hintern : table.intern text.dropLast = (.ok reader, after)) :
    ∃ id, reader.withScope .setter = some id := by
  obtain ⟨base, rfl, -, -⟩ := exists_base_of_classify_eq_setter hscope
  rw [List.dropLast_concat] at hintern
  have hinterns := h.interns base
  rw [hintern] at hinterns
  have hafter := (hinterns.grows h).wellFormed
  obtain ⟨sequence, hnumber, rfl⟩ :=
    hafter.exists_numbers (isPlain_of_classify_eq_setter hscope) hinterns.lookup_eq
  exact ⟨_, SymbolId.withScope_dynamic (hnumber.low hafter) (hnumber.high hafter) _ (by simp)⟩

end Table

namespace Registry

/-- Setters are recorded beside their readers, and nothing else shares a sequence number. -/
structure PairedSetters (registry : Registry) : Prop where
  /-- The identifier of a setter is that of its recorded name with another tag. -/
  exists_reader : ∀ record ∈ registry.records, record.id.scope = .setter →
    ∃ base reader, record.text = base ++ ['='] ∧ registry.lookup base = some reader ∧
      reader.withScope .setter = some record.id ∧ reader.sequence = record.id.sequence
  isSetterOf_of_sequence_eq : ∀ record ∈ registry.records, ∀ other ∈ registry.records,
    record ≠ other → record.id.isOperator = false → other.id.isOperator = false →
      record.id.sequence = other.id.sequence →
        record.IsSetterOf other ∨ other.IsSetterOf record
  /-- When a setter is new and its name has been interned, the tag of the name's identifier can
  be exchanged. -/
  withScope_of_intern : ∀ text reader after, classify text = .setter →
    registry.table.countMiss.intern text.dropLast = (.ok reader, after) →
      ∃ id, reader.withScope .setter = some id
  /-- However a setter was recorded, it is a setter by its identifier. -/
  scope_of_classify : ∀ record ∈ registry.records, classify record.text = .setter →
    record.id.scope = .setter
  /-- A setter that is interned is a setter by its identifier. -/
  scope_of_intern : ∀ text id after, classify text = .setter →
    registry.intern text = (.ok id, after) → id.scope = .setter

variable {registry : Registry}

/-- However a registry was reached, its setters are paired with their readers. -/
theorem Reachable.pairedSetters (h : registry.Reachable) : registry.PairedSetters := by
  have htable := h.wellFormed
  constructor
  case exists_reader =>
    intro record hrecord hscope
    exact htable.exists_reader hrecord hscope
  case isSetterOf_of_sequence_eq =>
    intro record hrecord other hother hne hdynamic hdynamic' hsequence
    exact htable.isSetterOf_of_sequence_eq hrecord hother hne hdynamic hdynamic' hsequence
  case withScope_of_intern =>
    intro text reader after hscope hintern
    have hcounted := (Table.sameNames_countMiss registry.table).wellFormed htable
    exact hcounted.withScope_of_intern hscope hintern
  case scope_of_classify =>
    intro record hrecord hscope
    exact (htable.scope_eq (htable.lookup_of_mem hrecord)).trans hscope
  case scope_of_intern =>
    intro text id after hscope hintern
    have htable' := table_of_intern hintern
    have hafter := ((htable.interns text).grows htable).wellFormed
    rw [htable'] at hafter
    exact (hafter.scope_eq (htable.lookup_of_intern htable')).trans hscope

/-- The first setter of a registry with the default setup is recorded beside its name. -/
theorem default_exists_reader : ∃ start, Registry.create (.default ⟨8⟩) = .ok start ∧
    (start.run [.intern ['a', '=']]).Reachable ∧
      (start.run [.intern ['a', '=']]).lookup ['a', '='] = some ⟨8012⟩ ∧
        ∃ reader, (start.run [.intern ['a', '=']]).lookup ['a'] = some reader ∧
          reader.withScope .setter = some ⟨8012⟩ := by
  have hstart := (Reachable.create create_default).wellFormed
  have hreachable := (Reachable.create create_default).run [.intern ['a', '=']]
  have hplain : IsPlain ['a'] := by
    constructor <;> decide
  have hscope : classify (['a'] ++ ['=']) = .setter := by decide
  have hnone : (bootstrap (.default ⟨8⟩)).table.lookup (['a'] ++ ['=']) = none := by
    rw [lookup_bootstrap]
    decide
  have hfloor := RegistryConfig.floor_of_validate (create_eq_ok_iff.mp create_default).1
  have hintern : (bootstrap (.default ⟨8⟩)).table.intern ['a', '='] = _ :=
    Table.intern_setter_of_lookup_eq_none hstart hnone hscope
      (lookup_bootstrap_of_isPlain _ hplain) hfloor.2
  have hlookup : ((bootstrap (.default ⟨8⟩)).run [.intern ['a', '=']]).lookup ['a', '='] =
      some ⟨8012⟩ := by
    rw [run_intern, intern, onTable, hintern, lookup]
    exact Table.lookup_recordSetter _
  have hrecord : ⟨⟨8012⟩, ['a', '=']⟩ ∈
      ((bootstrap (.default ⟨8⟩)).run [.intern ['a', '=']]).records :=
    Table.mem_records_iff.mpr ((hreachable.wellFormed.get?_iff _ _).mpr hlookup)
  obtain ⟨base, reader, htext, hreader, hwith, -⟩ :=
    (Reachable.pairedSetters hreachable).exists_reader _ hrecord (by decide)
  obtain rfl : ['a'] = base := List.append_cancel_right htext
  exact ⟨_, create_default, hreachable, hlookup, reader, hreader, hwith⟩

end Registry

end Interning
