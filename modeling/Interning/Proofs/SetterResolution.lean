import Interning.Proofs.DerivableSetters
import Interning.Proofs.ScopeCounts

/-!
# Setters that resolution records

A setter need not be interned to be resolved. The identifier of a setter tells the sequence number
of its reader, and when the reader is a recorded local name or constant, resolving the identifier
records the setter. `Registry.Derives` reads off the records which identifiers this concerns,
without resolving any, and `Registry.ResolvesSetters` is what holds of them in every registry that
operations lead to (`Registry.Reachable.resolvesSetters`): these identifiers and the recorded ones
resolve and no others do, a derivation adds the record of the setter and takes no sequence number,
and interning the setter first gives the same records.

The empty name is the reader of no setter (`Table.WellFormed.not_names_of_empty`), which is why it
is left out, and why asking for its setter is answered with none.
-/

set_option autoImplicit false
set_option relaxedAutoImplicit false

namespace Interning

namespace Table

variable {floor : UInt64} {table after : Table} {text base : Text} {id : SymbolId}
  {sequence : UInt64} {record : Record}

theorem SameNames.recordSetter (h : table.SameNames after) (base : Text) (sequence : UInt64) :
    (table.recordSetter base sequence).SameNames (after.recordSetter base sequence) where
  idOf_eq := congrArg (·.insert (base ++ ['=']) (.dynamic sequence .setter)) h.idOf_eq
  textOf_eq := congrArg (·.insert (.dynamic sequence .setter) (base ++ ['='])) h.textOf_eq
  lastSequence_eq := h.lastSequence_eq

/-- What is recorded once a setter is: the setter, and what was recorded before. -/
theorem WellFormed.records_recordSetter_perm (h : table.WellFormed floor)
    (hnumber : table.Numbers floor base sequence) (hnone : table.lookup (base ++ ['=']) = none) :
    (table.recordSetter base sequence).records.Perm
      (⟨.dynamic sequence .setter, base ++ ['=']⟩ :: table.records) := by
  have hfree := h.get?_setter hnumber hnone
  have hnew : ⟨.dynamic sequence .setter, base ++ ['=']⟩ ∉ table.records := by
    rw [mem_records_iff, hfree]
    simp
  refine (List.perm_ext_iff_of_nodup (nodup_records _)
    (List.nodup_cons.mpr ⟨hnew, nodup_records table⟩)).mpr fun record ↦ ?_
  rw [List.mem_cons, mem_records_iff, mem_records_iff, get?_recordSetter]
  by_cases hid : SymbolId.dynamic sequence .setter = record.id
  · rw [if_pos hid, ← hid, hfree]
    simp [eq_comm]
  · rw [if_neg hid]
    refine (or_iff_right ?_).symm
    rintro rfl
    exact hid rfl

/-- The sign alone is no setter, so the identifier of the empty name's setter has no name. -/
theorem WellFormed.not_names_of_empty (h : table.WellFormed floor)
    (hnumber : table.Numbers floor [] sequence) :
    ¬ table.Names floor (.dynamic sequence .setter) text := by
  have hsequence {other : UInt64} {base : Text} (hother : table.Numbers floor base other)
      (hid : SymbolId.dynamic sequence .setter = .dynamic other .setter) : base = [] := by
    obtain ⟨rfl, -⟩ := SymbolId.dynamic_inj (hnumber.low h) (hnumber.high h) (hother.low h)
      (hother.high h) (by simp) (by simp) hid
    exact h.number_unique _ _ _ hother hnumber
  intro hnames
  cases hnames with
  | recorded hlookup =>
    have hscope : classify text = .setter :=
      (h.scope_eq hlookup).symm.trans
        (SymbolId.scope_dynamic (hnumber.low h) (hnumber.high h) (by simp))
    obtain ⟨base, rfl, hne, -⟩ := exists_base_of_classify_eq_setter hscope
    obtain ⟨other, hother, hid⟩ := h.numbers_of_lookup_setter hscope hlookup
    exact hne (hsequence hother hid)
  | derivable hid hother _ hne => exact hne (hsequence hother hid)

end Table

namespace Registry

/-- A recorded local name or constant is the reader of a setter's identifier that has no record. -/
structure Derives (registry : Registry) (reader : Record) (id : SymbolId) : Prop where
  isOperator_eq : id.isOperator = false
  tag_eq : Scope.setter.tag? = some (id.raw % SymbolId.tagCount)
  contains_eq : registry.contains id = false
  mem_records : reader ∈ registry.records
  sequence_eq : reader.id.sequence = id.sequence
  scope_eq : reader.id.scope = .localName ∨ reader.id.scope = .constant
  text_ne : reader.text ≠ []

/-- A registry has one record more than another, and has given out no sequence number for it. -/
structure Adds (registry : Registry) (record : Record) (after : Registry) : Prop where
  config_eq : after.config = registry.config
  records_perm : after.records.Perm (record :: registry.records)
  lastSequence_eq : after.table.lastSequence = registry.table.lastSequence

/-- Which identifiers resolve, what a resolution adds, and which names have a setter. -/
structure ResolvesSetters (registry : Registry) : Prop where
  resolve_eq_ok_iff : ∀ id text, (registry.resolve id).1 = .ok text ↔
    ⟨id, text⟩ ∈ registry.records ∨
      ∃ reader, registry.Derives reader id ∧ text = reader.text ++ ['=']
  /-- Resolving the identifier records the setter. -/
  resolve_first : ∀ reader id, registry.Derives reader id →
    ∃ after, registry.resolve id = (.ok (reader.text ++ ['=']), after) ∧
      registry.Adds ⟨id, reader.text ++ ['=']⟩ after ∧
      after.lookup (reader.text ++ ['=']) = some id ∧
      (after.intern (reader.text ++ ['='])).1 = .ok id
  /-- Interning the setter records the same. -/
  intern_first : ∀ reader id, registry.Derives reader id →
    ∃ after, registry.intern (reader.text ++ ['=']) = (.ok id, after) ∧
      registry.Adds ⟨id, reader.text ++ ['=']⟩ after ∧
      (after.resolve id).1 = .ok (reader.text ++ ['='])
  /-- A recorded local name or constant has the setter of its number, the empty name apart. -/
  setterOf_of_mem : ∀ reader ∈ registry.records,
    reader.id.scope = .localName ∨ reader.id.scope = .constant → reader.text ≠ [] →
      ∃ setter after, registry.setterOf reader.id = (.ok (some setter), after) ∧
        setter.scope = .setter ∧ setter.sequence = reader.id.sequence ∧
        after.lookup (reader.text ++ ['=']) = some setter
  /-- Nothing else has a setter. -/
  mem_of_setterOf : ∀ id setter, (registry.setterOf id).1 = .ok (some setter) →
    ∃ reader ∈ registry.records, reader.id = id ∧
      (reader.id.scope = .localName ∨ reader.id.scope = .constant) ∧ reader.text ≠ []

variable {floor : UInt64} {registry : Registry} {reader : Record} {id : SymbolId} {text : Text}

/-- A recorded local name or constant has a sequence number. -/
theorem exists_numbers_of_mem_records (h : registry.table.WellFormed floor)
    (hreader : reader ∈ registry.records)
    (hscope : reader.id.scope = .localName ∨ reader.id.scope = .constant) :
    registry.table.Numbers floor reader.text reader.id.sequence ∧
      (classify reader.text = .localName ∨ classify reader.text = .constant) ∧
        reader.id = .dynamic reader.id.sequence (classify reader.text) := by
  have hlookup := h.lookup_of_mem hreader
  rw [h.scope_eq hlookup] at hscope
  have hplain : IsPlain reader.text := by
    unfold IsPlain
    rcases hscope with hscope | hscope <;> simp [hscope]
  obtain ⟨sequence, hnumber, hid⟩ := h.exists_numbers hplain hlookup
  have hsequence : reader.id.sequence = sequence := by
    rw [hid, SymbolId.sequence_dynamic (hnumber.low h) (hnumber.high h)]
  rw [hsequence]
  exact ⟨hnumber, hscope, hid⟩

theorem Derives.scope_id (h : registry.Derives reader id) : id.scope = .setter := by
  rw [SymbolId.scope, if_neg (by simp [h.isOperator_eq]), Scope.ofTag?_eq_some_iff.mpr h.tag_eq,
    Option.getD_some]

/-- The identifier is that of the reader's setter. -/
theorem Derives.eq_dynamic (h : registry.Derives reader id) :
    id = .dynamic reader.id.sequence .setter := by
  have hscope := h.scope_id
  obtain ⟨hid, -⟩ :=
    SymbolId.eq_dynamic_of_scope (by simp [hscope]) (by simp [hscope] : id.scope ≠ .junk)
  rwa [hscope, ← h.sequence_eq] at hid

theorem Derives.get?_eq (h : registry.Derives reader id) : registry.table.get? id = none := by
  have hcontains := h.contains_eq
  rw [contains, Table.contains_eq_isSome_get?] at hcontains
  simpa using hcontains

theorem Derives.lookup_eq (h : registry.Derives reader id)
    (hinvariant : registry.table.WellFormed floor) :
    registry.table.lookup (reader.text ++ ['=']) = none := by
  obtain ⟨hnumber, hscope, -⟩ := exists_numbers_of_mem_records hinvariant h.mem_records h.scope_eq
  exact hinvariant.lookup_eq_none_of_get?_setter hnumber
    (classify_append_sign_eq_setter h.text_ne hscope) (h.eq_dynamic ▸ h.get?_eq)

/-- Recording the setter of a reader adds the one record and takes no number. -/
theorem Derives.adds (h : registry.Derives reader id)
    (hinvariant : registry.table.WellFormed floor) {after : Table}
    (hsame : (registry.table.recordSetter reader.text reader.id.sequence).SameNames after) :
    registry.Adds ⟨id, reader.text ++ ['=']⟩ { registry with table := after } ∧
      after.lookup (reader.text ++ ['=']) = some id := by
  obtain ⟨hnumber, -⟩ := exists_numbers_of_mem_records hinvariant h.mem_records h.scope_eq
  have hperm := hinvariant.records_recordSetter_perm hnumber (h.lookup_eq hinvariant)
  rw [← h.eq_dynamic, ← hsame.records_eq] at hperm
  refine ⟨⟨rfl, hperm, hsame.lastSequence_eq⟩, ?_⟩
  rw [hsame.lookup_eq, Table.lookup_recordSetter, if_pos rfl, ← h.eq_dynamic]

theorem Derives.resolve_eq (h : registry.Derives reader id)
    (hinvariant : registry.table.WellFormed floor) :
    ∃ after, registry.resolve id = (.ok (reader.text ++ ['=']), after) ∧
      registry.Adds ⟨id, reader.text ++ ['=']⟩ after ∧
      after.lookup (reader.text ++ ['=']) = some id := by
  obtain ⟨hnumber, hscope, -⟩ := exists_numbers_of_mem_records hinvariant h.mem_records h.scope_eq
  have hcounted := ((Table.sameNames_countMiss registry.table).trans
    (Table.sameNames_countHit _)).recordSetter reader.text reader.id.sequence
  have hrecord := Table.record_of_get?_eq_none h.get?_eq
  rw [h.eq_dynamic, hinvariant.deriveSetter_of_numbers hnumber hscope h.text_ne
    (h.lookup_eq hinvariant), ← h.eq_dynamic] at hrecord
  have hresolve := Registry.resolve_eq registry id
  rw [afterRecord, hrecord] at hresolve
  exact ⟨_, hresolve, h.adds hinvariant (hcounted.trans (Table.sameNames_countDerived _))⟩

theorem Derives.intern_eq (h : registry.Derives reader id)
    (hinvariant : registry.table.WellFormed floor) :
    ∃ after, registry.intern (reader.text ++ ['=']) = (.ok id, after) ∧
      registry.Adds ⟨id, reader.text ++ ['=']⟩ after ∧
      after.lookup (reader.text ++ ['=']) = some id := by
  obtain ⟨hnumber, hscope, -⟩ := exists_numbers_of_mem_records hinvariant h.mem_records h.scope_eq
  have hcounted := ((Table.sameNames_countMiss registry.table).trans
    (Table.sameNames_countHit _)).recordSetter reader.text reader.id.sequence
  have hintern := Table.intern_setter hinvariant (h.lookup_eq hinvariant)
    (classify_append_sign_eq_setter h.text_ne hscope) hnumber
  rw [← h.eq_dynamic] at hintern
  exact ⟨_, by rw [intern, onTable, hintern], h.adds hinvariant hcounted⟩

/-- The setter of a numbered name can be derived while its identifier has no record. -/
theorem derives_of_numbers (h : registry.table.WellFormed floor) {base : Text} {sequence : UInt64}
    (hnumber : registry.table.Numbers floor base sequence)
    (hscope : classify base = .localName ∨ classify base = .constant) (hne : base ≠ [])
    (hget : registry.table.get? (.dynamic sequence .setter) = none) :
    registry.Derives ⟨.dynamic sequence (classify base), base⟩ (.dynamic sequence .setter) := by
  have hlow := hnumber.low h
  have hhigh := hnumber.high h
  constructor
  case isOperator_eq => exact SymbolId.isOperator_dynamic hlow hhigh .setter
  case tag_eq =>
    rw [← Scope.ofTag?_eq_some_iff, SymbolId.dynamic, SymbolId.raw_mod_ofParts hhigh]
    decide
  case contains_eq => rw [contains, Table.contains_eq_isSome_get?, hget, Option.isSome_none]
  case mem_records => exact Table.mem_records_iff.mpr (h.get?_of_numbers hnumber)
  case sequence_eq =>
    rw [SymbolId.sequence_dynamic hlow hhigh, SymbolId.sequence_dynamic hlow hhigh]
  case scope_eq => rwa [SymbolId.scope_dynamic hlow hhigh hnumber.plain.1]
  case text_ne => exact hne

/-- The names of identifiers are the recorded ones and those of setters that can be derived. -/
theorem names_iff (h : registry.table.WellFormed floor) :
    registry.table.Names floor id text ↔
      ⟨id, text⟩ ∈ registry.records ∨
        ∃ reader, registry.Derives reader id ∧ text = reader.text ++ ['='] := by
  constructor
  · intro hnames
    cases hnames with
    | recorded hlookup => exact .inl (Table.mem_records_iff.mpr ((h.get?_iff _ _).mpr hlookup))
    | @derivable base sequence hid hnumber hscope hne =>
      subst hid
      cases hget : registry.table.get? (.dynamic sequence .setter) with
      | none => exact .inr ⟨_, derives_of_numbers h hnumber hscope hne hget, rfl⟩
      | some record =>
        have htext := h.text_of_get?_setter hnumber hget
        have hrecord := (h.get?_iff record.text _).mpr (h.lookup_of_get? hget)
        rw [htext] at hrecord
        exact .inl (Table.mem_records_iff.mpr hrecord)
  · rintro (hrecord | ⟨reader, hderives, rfl⟩)
    · exact .recorded (h.lookup_of_mem hrecord)
    · obtain ⟨hnumber, hscope, -⟩ :=
        exists_numbers_of_mem_records h hderives.mem_records hderives.scope_eq
      exact .derivable hderives.eq_dynamic hnumber hscope hderives.text_ne

/-! ### The setter of a name -/

theorem text?_eq_ok_some_iff :
    (registry.text? id).1 = .ok (some text) ↔ (registry.resolve id).1 = .ok text := by
  unfold text?
  split <;> simp_all

/-- Asking for the setter of a recorded local name or constant resolves the identifier of the
setter. -/
theorem setterOf_eq (h : registry.table.WellFormed floor) (hreader : reader ∈ registry.records)
    (hscope : reader.id.scope = .localName ∨ reader.id.scope = .constant) :
    registry.setterOf reader.id =
      match registry.text? (.dynamic reader.id.sequence .setter) with
      | (.ok found, after) =>
        (.ok (found.map fun _ ↦ .dynamic reader.id.sequence .setter), after)
      | (.error fault, after) => (.error fault, after) := by
  obtain ⟨hnumber, -, hid⟩ := exists_numbers_of_mem_records h hreader hscope
  have hcontains : registry.contains reader.id = true := by
    rw [contains, Table.contains_eq_isSome_get?, Table.mem_records_iff.mp hreader,
      Option.isSome_some]
  have hsetter : reader.id.withScope .setter = some (.dynamic reader.id.sequence .setter) := by
    have hwith := SymbolId.withScope_dynamic (hnumber.low h) (hnumber.high h)
      (classify reader.text) (by simp : Scope.setter ≠ .operator)
    rwa [← hid] at hwith
  rw [setterOf, if_pos ⟨hscope, hcontains⟩]
  rcases hanswer : registry.text? (.dynamic reader.id.sequence .setter) with ⟨_ | _, after⟩ <;>
    simp only [hsetter, hanswer]

/-- The setter of a recorded name resolves, whether it is recorded already or not. -/
theorem resolve_setter (h : registry.table.WellFormed floor) (hreader : reader ∈ registry.records)
    (hscope : reader.id.scope = .localName ∨ reader.id.scope = .constant)
    (hne : reader.text ≠ []) :
    ∃ after, registry.resolve (.dynamic reader.id.sequence .setter) =
        (.ok (reader.text ++ ['=']), after) ∧
      after.lookup (reader.text ++ ['=']) = some (.dynamic reader.id.sequence .setter) := by
  obtain ⟨hnumber, hclassify, -⟩ := exists_numbers_of_mem_records h hreader hscope
  cases hget : registry.table.get? (.dynamic reader.id.sequence .setter) with
  | none =>
    obtain ⟨after, hresolve, -, hlookup⟩ :=
      (derives_of_numbers h hnumber hclassify hne hget).resolve_eq h
    exact ⟨after, hresolve, hlookup⟩
  | some record =>
    have hlookup := h.lookup_of_get? hget
    rw [h.text_of_get?_setter hnumber hget] at hlookup
    refine ⟨registry, ?_, hlookup⟩
    rw [resolve, h.resolve_of_lookup hlookup]
    rfl

/-- What has a setter is a recorded local name or constant, and not the empty one. -/
theorem mem_records_of_setterOf (h : registry.table.WellFormed floor) {setter : SymbolId}
    (hsetter : (registry.setterOf id).1 = .ok (some setter)) :
    ∃ reader ∈ registry.records, reader.id = id ∧
      (reader.id.scope = .localName ∨ reader.id.scope = .constant) ∧ reader.text ≠ [] := by
  by_cases hguard :
      (id.scope = .localName ∨ id.scope = .constant) ∧ registry.contains id = true
  · obtain ⟨hscope, hcontains⟩ := hguard
    rw [contains, Table.contains_eq_isSome_get?, Option.isSome_iff_exists] at hcontains
    obtain ⟨reader, hget⟩ := hcontains
    obtain ⟨rfl, -⟩ := Table.get?_eq_some_iff.mp hget
    have hreader : reader ∈ registry.records := Table.mem_records_iff.mpr hget
    refine ⟨reader, hreader, rfl, hscope, fun hempty ↦ ?_⟩
    obtain ⟨hnumber, -⟩ := exists_numbers_of_mem_records h hreader hscope
    rw [hempty] at hnumber
    rw [setterOf_eq h hreader hscope] at hsetter
    split at hsetter
    · next found after htext =>
      obtain ⟨text, rfl, -⟩ := Option.map_eq_some_iff.mp (Except.ok.inj hsetter)
      have hresolve := text?_eq_ok_some_iff.mp (congrArg Prod.fst htext)
      exact h.not_names_of_empty hnumber ((resolve_eq_ok_iff h).mp hresolve)
    · simp at hsetter
  · rw [setterOf, if_neg hguard] at hsetter
    simp at hsetter

/-- In every registry that operations lead to, the identifiers that resolve are the recorded ones
and those of setters whose readers are recorded. -/
theorem Reachable.resolvesSetters (h : registry.Reachable) : registry.ResolvesSetters := by
  have hinvariant := h.wellFormed
  constructor
  case resolve_eq_ok_iff =>
    intro id text
    rw [Registry.resolve_eq_ok_iff hinvariant, names_iff hinvariant]
  case resolve_first =>
    intro reader id hderives
    obtain ⟨after, hresolve, hadds, hlookup⟩ := hderives.resolve_eq hinvariant
    refine ⟨after, hresolve, hadds, hlookup, ?_⟩
    rw [intern_of_lookup hlookup]
  case intern_first =>
    intro reader id hderives
    obtain ⟨after, hintern, hadds, hlookup⟩ := hderives.intern_eq hinvariant
    have hafter := ((steps_intern registry (reader.text ++ ['='])).table.grows
      hinvariant).wellFormed
    rw [hintern] at hafter
    refine ⟨after, hintern, hadds, ?_⟩
    rw [Registry.resolve_eq_ok_iff hafter]
    exact .recorded hlookup
  case setterOf_of_mem =>
    intro reader hreader hscope hne
    obtain ⟨after, hresolve, hlookup⟩ := resolve_setter hinvariant hreader hscope hne
    obtain ⟨hnumber, -⟩ := exists_numbers_of_mem_records hinvariant hreader hscope
    have hlow := hnumber.low hinvariant
    have hhigh := hnumber.high hinvariant
    refine ⟨_, after, ?_, SymbolId.scope_dynamic hlow hhigh (by simp),
      SymbolId.sequence_dynamic hlow hhigh .setter, hlookup⟩
    rw [setterOf_eq hinvariant hreader hscope, text?, hresolve]
    rfl
  case mem_of_setterOf =>
    intro id setter hsetter
    exact mem_records_of_setterOf hinvariant hsetter

/-- The setter of the first name of a registry with the default setup is recorded by resolving its
identifier. -/
theorem default_resolve_setter : ∃ start after, Registry.create (.default ⟨8⟩) = .ok start ∧
    (start.run [.intern ['a']]).Reachable ∧
      (start.run [.intern ['a']]).Derives ⟨⟨8008⟩, ['a']⟩ ⟨8012⟩ ∧
        (start.run [.intern ['a']]).resolve ⟨8012⟩ = (.ok ['a', '='], after) ∧
          (start.run [.intern ['a']]).Adds ⟨⟨8012⟩, ['a', '=']⟩ after ∧
            after.lookup ['a', '='] = some ⟨8012⟩ := by
  have hreachable := (Reachable.create create_default).run [.intern ['a']]
  have hplain : IsPlain ['a'] := by
    constructor <;> decide
  have hnumber := numbers_run_intern create_default hplain
  have hnone : ((bootstrap (.default ⟨8⟩)).run [.intern ['a']]).table.lookup (['a'] ++ ['=']) =
      none := by
    rw [table_run_intern create_default hplain, Table.lookup_recordPlain, if_neg (by simp),
      (Table.sameNames_countMiss _).lookup_eq, lookup_bootstrap]
    decide
  have hinvariant := ((steps_run _ [.intern ['a']]).table.grows
    (wellFormed_of_create create_default).2).wellFormed
  have hget := hinvariant.get?_setter hnumber hnone
  have hderives : ((bootstrap (.default ⟨8⟩)).run [.intern ['a']]).Derives ⟨⟨8008⟩, ['a']⟩ ⟨8012⟩ :=
    derives_of_numbers hinvariant hnumber (.inl (by decide)) (by simp) hget
  obtain ⟨after, hresolve, hadds, hlookup, -⟩ :=
    (Reachable.resolvesSetters hreachable).resolve_first _ _ hderives
  exact ⟨_, after, create_default, hreachable, hderives, hresolve, hadds, hlookup⟩

end Registry

end Interning
