import Interning.Proofs.ScopeCounts

/-!
# Sequence numbers are given out without gaps

Plain names take sequence numbers; operators and setters do not. The numbers come from a counter
that is advanced before a name is recorded, so a number could be lost where an operation fails in
between, or be taken twice where two paths lead to one name. `Registry.GaplessNumbers` says that
neither happens: the plain names of a registry, in the order in which a run has first recorded them
(`Registry.firstNames`), have the numbers from the one after the floor on, one after the other, and
the next plain name has the next number.

An operation records at most one plain name, since it advances the counter at most once
(`Registry.toNat_lastSequence_perform_le`). By the invariant, the plain names that are new in a
table that has grown are those with a number above the old counter
(`Table.WellFormed.mem_newNames_iff`), so a new name has the next number
(`Table.consecutive_newNames`). Along a run the stretches of numbers are put together
(`Registry.consecutive_firstNames`).
-/

set_option autoImplicit false
set_option relaxedAutoImplicit false

namespace Interning

/-- A record is neither that of an operator nor that of a setter. -/
def Record.takesNumber (record : Record) : Bool :=
  (Token.find? record.text).isNone && record.id.scope != .setter

/-- An identifier holds the sequence number at an index above the floor, and no bit of it is lost:
as a number, it is eight times the sequence number and the tag of its scope. -/
structure SymbolId.Holds (id : SymbolId) (floor : UInt64) (index : Nat) : Prop where
  sequence_eq : id.sequence.toNat = floor.toNat + index + 1
  raw_eq : ∃ tag, id.scope.tag? = some tag ∧ id.raw.toNat = id.sequence.toNat * 8 + tag.toNat
  le_raw : 8 * (floor.toNat + 1) ≤ id.raw.toNat
  not_reserved : id.isOperator = false

theorem SymbolId.holds_dynamic {floor sequence : UInt64} {index : Nat} {scope : Scope}
    (hlow : 125 ≤ sequence) (hhigh : sequence ≤ maxSequence) (hscope : scope ≠ .operator)
    (hindex : sequence.toNat = floor.toNat + index + 1) :
    (dynamic sequence scope).Holds floor index := by
  have hsequence := sequence_dynamic hlow hhigh scope
  obtain ⟨tag, htag, hraw⟩ := toNat_raw_dynamic hhigh hscope
  constructor
  case sequence_eq => rw [hsequence, hindex]
  case raw_eq => exact ⟨tag, by rwa [scope_dynamic hlow hhigh hscope], by rwa [hsequence]⟩
  case le_raw => omega
  case not_reserved => exact isOperator_dynamic hlow hhigh scope

namespace Table

variable {floor start : UInt64} {table after : Table} {text : Text} {record : Record}

theorem Numbers.holds {sequence : UInt64} (hnumber : table.Numbers floor text sequence)
    (h : table.WellFormed floor) {scope : Scope} (hscope : scope ≠ .operator) {index : Nat}
    (hindex : sequence.toNat = floor.toNat + index + 1) :
    (SymbolId.dynamic sequence scope).Holds floor index :=
  SymbolId.holds_dynamic (hnumber.low h) (hnumber.high h) hscope hindex

/-! ### The names that take numbers -/

/-- The recorded names that take sequence numbers. -/
def numberedTexts (table : Table) : List Text :=
  (table.records.filter Record.takesNumber).map Record.text

/-- The names that take sequence numbers in a table and have no record in an earlier one. -/
def newNames (table after : Table) : List Text :=
  after.numberedTexts.filter fun text ↦ (table.lookup text).isNone

theorem WellFormed.takesNumber_iff (h : table.WellFormed floor) (hrecord : record ∈ table.records) :
    record.takesNumber = true ↔ IsPlain record.text := by
  have hoperator : (Token.find? record.text).isNone = true ↔ classify record.text ≠ .operator := by
    rw [Ne, classify_eq_operator_iff, ← find?_isSome_iff]
    simp
  simp only [Record.takesNumber, Bool.and_eq_true, hoperator, bne_iff_ne, IsPlain,
    h.scope_eq (h.lookup_of_mem hrecord)]

theorem WellFormed.mem_numberedTexts_iff (h : table.WellFormed floor) :
    text ∈ table.numberedTexts ↔ ∃ sequence, table.Numbers floor text sequence := by
  rw [h.exists_numbers_iff, ← h.mem_texts_iff, numberedTexts, texts, List.mem_map, List.mem_map]
  constructor
  · rintro ⟨record, hmem, rfl⟩
    obtain ⟨hrecord, hplain⟩ := List.mem_filter.mp hmem
    exact ⟨(h.takesNumber_iff hrecord).mp hplain, record, hrecord, rfl⟩
  · rintro ⟨hplain, record, hrecord, rfl⟩
    exact ⟨record, List.mem_filter.mpr ⟨hrecord, (h.takesNumber_iff hrecord).mpr hplain⟩, rfl⟩

theorem WellFormed.nodup_numberedTexts (h : table.WellFormed floor) :
    table.numberedTexts.Nodup :=
  h.nodup_texts.sublist (List.filter_sublist.map Record.text)

/-- A number that was given out before a table has grown belongs to a name that was recorded
before. -/
theorem WellFormed.lt_of_lookup_eq_none (h : table.WellFormed floor)
    (hgrows : table.Grows floor after) {sequence : UInt64}
    (hnumber : after.Numbers floor text sequence) (hnone : table.lookup text = none) :
    table.lastSequence < sequence := by
  refine UInt64.not_le.mp fun hle ↦ ?_
  obtain ⟨other, hother⟩ := h.number_taken sequence hnumber.floor_lt hle
  obtain rfl :=
    hgrows.wellFormed.number_unique _ _ _ hnumber (hgrows.extends_table.numbers hother)
  rw [hother.lookup_eq] at hnone
  exact absurd hnone (by simp)

/-- In a table that has grown, the new names are those numbered above the old counter. -/
theorem WellFormed.mem_newNames_iff (h : table.WellFormed floor)
    (hgrows : table.Grows floor after) :
    text ∈ table.newNames after ↔
      ∃ sequence, after.Numbers floor text sequence ∧ table.lastSequence < sequence := by
  have hafter := hgrows.wellFormed
  rw [newNames, List.mem_filter, hafter.mem_numberedTexts_iff, Option.isNone_iff_eq_none]
  constructor
  · rintro ⟨⟨sequence, hnumber⟩, hnone⟩
    exact ⟨sequence, hnumber, h.lt_of_lookup_eq_none hgrows hnumber hnone⟩
  · rintro ⟨sequence, hnumber, hlt⟩
    refine ⟨⟨sequence, hnumber⟩, ?_⟩
    by_contra hlookup
    obtain ⟨id, hid⟩ := Option.ne_none_iff_exists'.mp hlookup
    obtain ⟨old, hold, -⟩ := h.exists_numbers hnumber.plain hid
    rw [hnumber.sequence_eq hafter (hgrows.extends_table.numbers hold)] at hlt
    exact absurd hlt (UInt64.not_lt.mpr hold.le_last)

/-! ### Stretches of numbers -/

/-- Names have the sequence numbers between a start and the counter, in order. -/
structure Consecutive (floor : UInt64) (table : Table) (start : UInt64) (names : List Text) :
    Prop where
  toNat_last : table.lastSequence.toNat = start.toNat + names.length
  numbers : ∀ index name, names[index]? = some name →
    ∃ sequence, table.Numbers floor name sequence ∧ sequence.toNat = start.toNat + index + 1

theorem consecutive_nil (hlast : table.lastSequence = start) :
    table.Consecutive floor start [] where
  toNat_last := by rw [hlast, List.length_nil, Nat.add_zero]
  numbers := by simp

/-- A stretch from where another ends, in a table that has grown, continues it. -/
theorem Consecutive.append {names more : List Text} (h : table.Consecutive floor start names)
    (hgrows : table.Extends after) (hmore : after.Consecutive floor table.lastSequence more) :
    after.Consecutive floor start (names ++ more) where
  toNat_last := by
    rw [hmore.toNat_last, h.toNat_last, List.length_append, Nat.add_assoc]
  numbers := by
    intro index name hname
    by_cases hindex : index < names.length
    · rw [List.getElem?_append_left hindex] at hname
      obtain ⟨sequence, hnumber, hsequence⟩ := h.numbers index name hname
      exact ⟨sequence, hgrows.numbers hnumber, hsequence⟩
    · rw [List.getElem?_append_right (Nat.le_of_not_lt hindex)] at hname
      obtain ⟨sequence, hnumber, hsequence⟩ := hmore.numbers _ name hname
      refine ⟨sequence, hnumber, ?_⟩
      rw [hsequence, h.toNat_last]
      omega

/-- Where the counter has advanced at most once, the new name, if there is one, has the next
number. -/
theorem consecutive_newNames (h : table.WellFormed floor) (hgrows : table.Grows floor after)
    (hlast : after.lastSequence.toNat ≤ table.lastSequence.toNat + 1) :
    after.Consecutive floor table.lastSequence (table.newNames after) := by
  have hafter := hgrows.wellFormed
  have hle := UInt64.le_iff_toNat_le.mp hgrows.extends_table.last_le
  rcases Nat.lt_or_ge table.lastSequence.toNat after.lastSequence.toNat with hlt | hge
  · -- The number that was given out has one name, which is the only new one.
    have hfloor := UInt64.lt_of_le_of_lt h.floor_le (UInt64.lt_iff_toNat_lt.mpr hlt)
    obtain ⟨name, hname⟩ := hafter.number_taken _ hfloor (UInt64.le_refl _)
    have hnew : ∀ text, text ∈ table.newNames after ↔ text ∈ [name] := by
      intro text
      rw [h.mem_newNames_iff hgrows, List.mem_singleton]
      constructor
      · rintro ⟨sequence, hnumber, hold⟩
        have hbound := UInt64.le_iff_toNat_le.mp hnumber.le_last
        have hold' := UInt64.lt_iff_toNat_lt.mp hold
        obtain rfl : sequence = after.lastSequence := UInt64.toNat_inj.mp (by omega)
        exact hafter.number_unique _ _ _ hnumber hname
      · rintro rfl
        exact ⟨_, hname, UInt64.lt_iff_toNat_lt.mpr hlt⟩
    have hsingleton : table.newNames after = [name] := by
      refine List.perm_singleton.mp ((List.perm_ext_iff_of_nodup ?_ ?_).mpr hnew)
      · exact hafter.nodup_numberedTexts.filter _
      · exact List.nodup_singleton name
    rw [hsingleton]
    refine ⟨by rw [List.length_singleton]; omega, ?_⟩
    intro index text htext
    obtain ⟨rfl, rfl⟩ : index = 0 ∧ name = text := by simpa [List.getElem?_singleton] using htext
    exact ⟨_, hname, by omega⟩
  · have hempty : table.newNames after = [] := by
      refine List.eq_nil_iff_forall_not_mem.mpr fun text hmem ↦ ?_
      obtain ⟨sequence, hnumber, hold⟩ := (h.mem_newNames_iff hgrows).mp hmem
      have hbound := UInt64.le_iff_toNat_le.mp hnumber.le_last
      have hold' := UInt64.lt_iff_toNat_lt.mp hold
      omega
    rw [hempty]
    exact consecutive_nil (UInt64.toNat_inj.mp (by omega))

theorem Consecutive.nodup {names : List Text} (h : table.Consecutive floor start names)
    (htable : table.WellFormed floor) : names.Nodup := by
  rw [List.nodup_iff_getElem?_ne_getElem?]
  intro first second hlt hsecond heq
  rw [List.getElem?_eq_getElem hsecond] at heq
  obtain ⟨sequence, hnumber, hsequence⟩ := h.numbers first _ heq
  obtain ⟨other, hother, hsequence'⟩ := h.numbers second _ (List.getElem?_eq_getElem hsecond)
  rw [hnumber.sequence_eq htable hother] at hsequence
  omega

/-- A stretch from the floor on holds every number. -/
theorem Consecutive.exists_index {names : List Text} (h : table.Consecutive floor floor names)
    {sequence : UInt64} (hnumber : table.Numbers floor text sequence) :
    ∃ index < names.length, sequence.toNat = floor.toNat + index + 1 := by
  have hlow := UInt64.lt_iff_toNat_lt.mp hnumber.floor_lt
  have hhigh := UInt64.le_iff_toNat_le.mp hnumber.le_last
  have hlast := h.toNat_last
  exact ⟨sequence.toNat - floor.toNat - 1, by omega, by omega⟩

/-- A stretch from the floor on holds every name that takes a number. -/
theorem Consecutive.perm {names : List Text} (h : table.Consecutive floor floor names)
    (htable : table.WellFormed floor) : names.Perm table.numberedTexts := by
  refine (List.perm_ext_iff_of_nodup (h.nodup htable) htable.nodup_numberedTexts).mpr fun text ↦ ?_
  rw [htable.mem_numberedTexts_iff]
  constructor
  · intro hmem
    obtain ⟨index, hindex⟩ := List.getElem?_of_mem hmem
    obtain ⟨sequence, hnumber, -⟩ := h.numbers index text hindex
    exact ⟨sequence, hnumber⟩
  · rintro ⟨sequence, hnumber⟩
    obtain ⟨index, hindex, hsequence⟩ := h.exists_index hnumber
    obtain ⟨other, hother, hsequence'⟩ := h.numbers _ _ (List.getElem?_eq_getElem hindex)
    obtain rfl : other = sequence := UInt64.toNat_inj.mp (by omega)
    rw [htable.number_unique _ _ _ hnumber hother]
    exact List.getElem_mem hindex

/-! ### The identifiers of records -/

/-- Every record but the operators' holds a number of a stretch from the floor on. -/
theorem Consecutive.exists_holds {names : List Text} (h : table.Consecutive floor floor names)
    (htable : table.WellFormed floor) (hrecord : record ∈ table.records)
    (hfind : Token.find? record.text = none) :
    ∃ index < names.length, record.id.Holds floor index := by
  have hlookup := htable.lookup_of_mem hrecord
  obtain ⟨id, text⟩ := record
  cases htable.entry text id hlookup with
  | operator htoken =>
    rw [Token.find?_text_of_mem htoken] at hfind
    exact absurd hfind (by simp)
  | plain hnumber =>
    obtain ⟨index, hindex, hsequence⟩ := h.exists_index hnumber
    exact ⟨index, hindex, hnumber.holds htable hnumber.plain.1 hsequence⟩
  | setter hnumber _ =>
    obtain ⟨index, hindex, hsequence⟩ := h.exists_index hnumber
    exact ⟨index, hindex, hnumber.holds htable (by simp) hsequence⟩

/-- The records with an identifier in the operators' range are the operators. -/
theorem WellFormed.mem_records_and_isOperator_iff (h : table.WellFormed floor) {id : SymbolId} :
    ⟨id, text⟩ ∈ table.records ∧ id.isOperator = true ↔ ⟨id, text⟩ ∈ Token.all := by
  constructor
  · rintro ⟨hrecord, hoperator⟩
    cases h.entry text id (h.lookup_of_mem hrecord) with
    | operator htoken => exact htoken
    | plain hnumber =>
      rw [SymbolId.isOperator_dynamic (hnumber.low h) (hnumber.high h)] at hoperator
      exact absurd hoperator (by decide)
    | setter hnumber _ =>
      rw [SymbolId.isOperator_dynamic (hnumber.low h) (hnumber.high h)] at hoperator
      exact absurd hoperator (by decide)
  · intro htoken
    exact ⟨mem_records_iff.mpr ((h.get?_iff text id).mpr (h.operator _ htoken)),
      Token.isOperator_of_mem htoken⟩

/-! ### The counter -/

/-- An interning advances the counter at most once. -/
theorem WellFormed.toNat_lastSequence_intern_le (h : table.WellFormed floor) (text : Text) :
    (table.intern text).2.lastSequence.toNat ≤ table.lastSequence.toNat + 1 := by
  have hinterns := h.interns text
  generalize table.intern text = outcome at hinterns ⊢
  cases hinterns with
  | plain hnone hplain hlast => simp [SymbolId.toNat_succ hlast]
  | setterAndBase hnone hscope hbase hlast => simp [SymbolId.toNat_succ hlast]
  | _ => simp

/-- A resolution advances the counter at most once, and not at all where it finds a name. -/
theorem WellFormed.toNat_lastSequence_record_le (h : table.WellFormed floor) (id : SymbolId) :
    (table.record id).2.lastSequence.toNat ≤ table.lastSequence.toNat + 1 ∧
      ∀ record, (table.record id).1 = .ok record →
        (table.record id).2.lastSequence = table.lastSequence := by
  have hresolves := h.resolves id
  generalize table.record id = outcome at hresolves ⊢
  cases hresolves with
  | emptyNew hget hid hnumber hnone hlast => simp [SymbolId.toNat_succ hlast]
  | _ => simp

end Table

namespace Registry

variable {floor : UInt64} {registry : Registry}

/-- The names that take sequence numbers in the order in which a run first records them. -/
def firstNames (registry : Registry) : List Operation → List Text
  | [] => []
  | operation :: rest =>
    let after := (registry.perform operation).2
    registry.table.newNames after.table ++ after.firstNames rest

/-- The sequence numbers of a registry follow one another from the floor on, in the order of the
given names, and identifiers hold them unabridged. -/
structure GaplessNumbers (floor : UInt64) (registry : Registry) (names : List Text) : Prop where
  /-- The names are those of the records that are neither operators' nor setters', each once. -/
  perm : names.Perm ((registry.records.filter Record.takesNumber).map Record.text)
  nodup : names.Nodup
  holds : ∀ index (h : index < names.length), ∃ id,
    registry.lookup names[index] = some id ∧ id.Holds floor index
  /-- An operation records at most one further name, under the next number. -/
  newNames_eq : ∀ operation,
    registry.table.newNames (registry.perform operation).2.table = [] ∨
      ∃ name id, registry.table.newNames (registry.perform operation).2.table = [name] ∧
        (registry.perform operation).2.lookup name = some id ∧ id.Holds floor names.length
  /-- A new name that is no setter receives the next number as long as there is one. -/
  intern_new : ∀ name, classify name ≠ .setter → registry.lookup name = none →
    floor.toNat + names.length < 2 ^ 61 - 1 ∧
        (∃ id, (registry.intern name).1 = .ok id ∧ id.Holds floor names.length) ∨
      floor.toNat + names.length = 2 ^ 61 - 1 ∧
        (registry.intern name).1 = .error (.exhausted registry.table.lastSequence)
  /-- Every record but the operators' holds one of the numbers. -/
  holds_of_mem : ∀ record ∈ registry.records, Token.find? record.text = none →
    ∃ index < names.length, record.id.Holds floor index
  /-- The identifiers below the limit are the operators'. -/
  reserved_iff : ∀ id text,
    ⟨id, text⟩ ∈ registry.records ∧ id.raw.toNat < 1000 ↔ ⟨id, text⟩ ∈ Token.all

/-! ### The counter along operations -/

theorem toNat_lastSequence_mapText_le (h : registry.table.WellFormed floor) (image : Text → Text)
    (id : SymbolId) :
    (mapText image registry id).2.table.lastSequence.toNat ≤
      registry.table.lastSequence.toNat + 1 := by
  obtain ⟨hle, heq⟩ := h.toNat_lastSequence_record_le id
  rw [mapText_eq]
  split
  · next record hrecord =>
    rw [← heq record hrecord]
    exact (wellFormed_afterRecord h id).toNat_lastSequence_intern_le (image record.text)
  · exact hle

theorem toNat_lastSequence_setterOf_le (h : registry.table.WellFormed floor) (id : SymbolId) :
    (registry.setterOf id).2.table.lastSequence.toNat ≤ registry.table.lastSequence.toNat + 1 := by
  unfold setterOf
  split
  · split
    · exact Nat.le_succ _
    · next setter _ =>
      have hle := (h.toNat_lastSequence_record_le setter).1
      rw [text?_eq]
      split <;> next heq =>
        obtain ⟨-, rfl⟩ := Prod.mk.inj heq
        exact hle
  · exact Nat.le_succ _

theorem toNat_lastSequence_compareBy_le (h : registry.table.WellFormed floor) (key : Text → Text)
    (a b : SymbolId) :
    (compareBy key registry a b).2.table.lastSequence.toNat ≤
      registry.table.lastSequence.toNat + 1 := by
  obtain ⟨hle, heq⟩ := h.toNat_lastSequence_record_le a
  have hsecond := ((wellFormed_afterRecord h a).toNat_lastSequence_record_le b).1
  unfold compareBy
  rw [text?_eq]
  cases hrecord : (registry.table.record a).1 with
  | ok record =>
    -- The first identifier has a name, so the counter stands where it stood.
    simp only [text?_eq]
    change _ ≤ (registry.table.record a).2.lastSequence.toNat + 1 at hsecond
    rw [heq record hrecord] at hsecond
    split <;> next hanswer =>
      obtain ⟨-, rfl⟩ := Prod.mk.inj hanswer
      exact hsecond
  | error fault => cases fault <;> exact hle

/-- An operation advances the counter at most once. -/
theorem toNat_lastSequence_perform_le (h : registry.table.WellFormed floor)
    (operation : Operation) :
    (registry.perform operation).2.table.lastSequence.toNat ≤
      registry.table.lastSequence.toNat + 1 := by
  have hrecord (id : SymbolId) := (h.toNat_lastSequence_record_le id).1
  cases operation <;> simp only [perform, ofOutcome_snd]
  case intern text => exact h.toNat_lastSequence_intern_le text
  case resolve id =>
    rw [resolve_eq]
    exact hrecord id
  case record id => exact hrecord id
  case displayId id =>
    rw [displayId_eq]
    exact hrecord id
  case isEmptySymbol id =>
    rw [isEmptySymbol_eq]
    exact hrecord id
  case compare a b => exact toNat_lastSequence_compareBy_le h _ a b
  case caseCompare a b => exact toNat_lastSequence_compareBy_le h _ a b
  case upcase id => exact toNat_lastSequence_mapText_le h _ id
  case downcase id => exact toNat_lastSequence_mapText_le h _ id
  case capitalize id => exact toNat_lastSequence_mapText_le h _ id
  case swapCase id => exact toNat_lastSequence_mapText_le h _ id
  case setterOf id => exact toNat_lastSequence_setterOf_le h id
  all_goals exact Nat.le_succ _

/-! ### Runs -/

/-- The names that a run records first are numbered from the counter before the run on. -/
theorem consecutive_firstNames (h : registry.table.WellFormed floor)
    (operations : List Operation) :
    (registry.run operations).table.Consecutive floor registry.table.lastSequence
      (registry.firstNames operations) := by
  induction operations generalizing registry with
  | nil => exact Table.consecutive_nil rfl
  | cons operation rest ih =>
    have hstep := grows_perform h operation
    have hrest := (steps_run (registry.perform operation).2 rest).table.grows hstep.wellFormed
    have hnew := Table.consecutive_newNames h hstep (toNat_lastSequence_perform_le h operation)
    exact hnew.append hrest.extends_table (ih hstep.wellFormed)

/-- A registry whose names are numbered from the floor to the counter has no gaps. -/
theorem gaplessNumbers_of_consecutive (h : registry.table.WellFormed floor) {names : List Text}
    (hnames : registry.table.Consecutive floor floor names) :
    registry.GaplessNumbers floor names := by
  have hlast := hnames.toNat_last
  constructor
  case perm => exact hnames.perm h
  case nodup => exact hnames.nodup h
  case holds =>
    intro index hindex
    obtain ⟨sequence, hnumber, hsequence⟩ :=
      hnames.numbers index _ (List.getElem?_eq_getElem hindex)
    exact ⟨_, hnumber.lookup_eq, hnumber.holds h hnumber.plain.1 hsequence⟩
  case newNames_eq =>
    intro operation
    have hstep := grows_perform h operation
    have hadvance := toNat_lastSequence_perform_le h operation
    have hnew := Table.consecutive_newNames h hstep hadvance
    cases hcase : registry.table.newNames (registry.perform operation).2.table with
    | nil => exact .inl rfl
    | cons name more =>
      rw [hcase] at hnew
      have hlength := hnew.toNat_last
      obtain rfl : more = [] := by
        rw [List.length_cons] at hlength
        exact List.length_eq_zero_iff.mp (by omega)
      obtain ⟨sequence, hnumber, hsequence⟩ := hnew.numbers 0 name rfl
      exact .inr ⟨name, _, rfl, hnumber.lookup_eq,
        hnumber.holds hstep.wellFormed hnumber.plain.1 (by omega)⟩
  case intern_new =>
    intro name hscope hnone
    have hplain := (h.isPlain_or_setter hnone).resolve_right hscope
    by_cases hfree : registry.table.lastSequence < SymbolId.maxSequence
    · have hbound : registry.table.lastSequence.toNat < 2 ^ 61 - 1 :=
        UInt64.lt_iff_toNat_lt.mp hfree
      have hintern := Table.intern_plain hnone hplain hfree
      have hnext := SymbolId.toNat_succ hfree
      have hlow := h.low_of_lt (UInt64.lt_of_le_of_lt h.floor_le (SymbolId.lt_succ hfree))
      refine .inl ⟨by omega, _, congrArg Prod.fst hintern, ?_⟩
      exact SymbolId.holds_dynamic hlow (SymbolId.succ_le_maxSequence hfree) hplain.1 (by omega)
    · have hbound : registry.table.lastSequence.toNat = 2 ^ 61 - 1 :=
        congrArg UInt64.toNat (h.lastSequence_eq_of_not_lt hfree)
      have hintern := Table.intern_plain_exhausted hnone hplain hfree
      exact .inr ⟨by omega, congrArg Prod.fst hintern⟩
  case holds_of_mem =>
    intro record hrecord hfind
    exact hnames.exists_holds h hrecord hfind
  case reserved_iff =>
    intro id text
    rw [← SymbolId.isOperator_iff]
    exact h.mem_records_and_isOperator_iff

/-- Along every run on a registry of a checked setup, sequence numbers are given out without gaps
from the floor of the setup on. -/
theorem gaplessNumbers_run {config : RegistryConfig} {start : Registry}
    (hstart : Registry.create config = .ok start) (operations : List Operation) :
    (start.run operations).GaplessNumbers config.sequenceFloor (start.firstNames operations) := by
  have hinvariant := (wellFormed_of_create hstart).2
  have hrun := ((steps_run start operations).table.grows hinvariant).wellFormed
  have hnames := consecutive_firstNames hinvariant operations
  obtain ⟨-, rfl⟩ := create_eq_ok_iff.mp hstart
  exact gaplessNumbers_of_consecutive hrun hnames

/-- A setter that is interned first records its name first; a name whose setter has been derived
keeps its number, and a failed resolution takes none. -/
theorem default_gaplessNumbers : ∃ start, Registry.create (.default ⟨8⟩) = .ok start ∧
    start.firstNames [.intern ['b', '='], .resolve ⟨8024⟩, .intern ['a'], .resolve ⟨8020⟩,
        .upcase ⟨8016⟩, .intern ['b']] = [['b'], ['a'], ['A']] ∧
      (start.run [.intern ['b', '='], .resolve ⟨8024⟩, .intern ['a'], .resolve ⟨8020⟩,
        .upcase ⟨8016⟩, .intern ['b']]).GaplessNumbers 1000 [['b'], ['a'], ['A']] := by
  have hnames : (bootstrap (.default ⟨8⟩)).firstNames [.intern ['b', '='], .resolve ⟨8024⟩,
      .intern ['a'], .resolve ⟨8020⟩, .upcase ⟨8016⟩, .intern ['b']] = [['b'], ['a'], ['A']] := by
    decide +kernel
  refine ⟨_, create_default, hnames, ?_⟩
  have hnumbers := gaplessNumbers_run create_default [.intern ['b', '='], .resolve ⟨8024⟩,
    .intern ['a'], .resolve ⟨8020⟩, .upcase ⟨8016⟩, .intern ['b']]
  rwa [hnames] at hnumbers

end Registry

end Interning
