import Interning.Proofs.ResolutionOutcome
import Interning.Proofs.RegistrySteps

/-!
# What a failed resolution leaves behind

An identifier without a name is answered as such, and the name table should not show that it was
asked for. Resolving the identifier of a setter, however, interns what the setter would be before it
compares identifiers, and keeps what it has interned when they differ.

They differ for one name. The empty name is a local name, so the identifier of its setter is derived
by interning the sign alone; the sign is junk and has an identifier of its own. While the sign is
not recorded, every operation that asks for the setter of the empty name records it, takes a
sequence number for it, and answers that there is no such name
(`Table.WellFormed.record_of_isEmptySetter`).

`Registry.Reachable.unchanged_iff` proves that this is the only case: a failed resolution in any
registry that operations lead to leaves the records, the lookups and the identifiers that texts
would receive as they were (`Registry.Unchanged`) if and only if it is no such operation
(`Registry.AsksEmptySetter`). The table may have counted a hit.
-/

set_option autoImplicit false
set_option relaxedAutoImplicit false

namespace Interning

namespace Table

variable {floor : UInt64} {table after : Table} {id : SymbolId}

/-- The identifier of the setter of the empty name, which no text ever has. -/
def IsEmptySetter (table : Table) (id : SymbolId) : Prop :=
  ∃ reader, table.lookup [] = some reader ∧ reader.withScope .setter = some id

theorem WellFormed.isEmptySetter_iff (h : table.WellFormed floor) :
    table.IsEmptySetter id ↔
      ∃ sequence, id = .dynamic sequence .setter ∧ table.Numbers floor [] sequence := by
  constructor
  · rintro ⟨reader, hlookup, hsetter⟩
    obtain ⟨sequence, hnumber, rfl⟩ := h.exists_numbers isPlain_empty hlookup
    rw [SymbolId.withScope_dynamic (hnumber.low h) (hnumber.high h) _ (by simp)] at hsetter
    exact ⟨sequence, (Option.some.inj hsetter).symm, hnumber⟩
  · rintro ⟨sequence, rfl, hnumber⟩
    exact ⟨_, hnumber.lookup_eq,
      SymbolId.withScope_dynamic (hnumber.low h) (hnumber.high h) _ (by simp)⟩

/-- A resolution that finds no name leaves the names alone, unless it is asked for the setter of
the empty name and the sign is not recorded yet; then it records the sign. -/
theorem WellFormed.record_eq_notFound (h : table.WellFormed floor) {unknown : SymbolId}
    (hrecord : (table.record id).1 = .error (.notFound unknown)) :
    ¬ (table.IsEmptySetter id ∧ table.lookup ['='] = none) ∧
        table.SameNames (table.record id).2 ∨
      (table.IsEmptySetter id ∧ table.lookup ['='] = none) ∧
        (table.record id).2 = table.countMiss.recordPlain ['='] := by
  have hresolves := h.resolves id
  rw [h.isEmptySetter_iff]
  generalize table.record id = outcome at hresolves hrecord ⊢
  obtain ⟨answer, after⟩ := outcome
  obtain rfl : answer = .error (.notFound unknown) := hrecord
  cases hresolves with
  | unknown hget hreader =>
    refine .inl ⟨?_, .refl table⟩
    rintro ⟨⟨sequence, hid, hnumber⟩, -⟩
    exact hreader [] sequence hid hnumber (.inl rfl)
  | emptyKnown hget hid hnumber hsign =>
    refine .inl ⟨?_, sameNames_countHit table⟩
    rintro ⟨-, hnone⟩
    rw [hsign] at hnone
    exact absurd hnone (by simp)
  | emptyNew hget hid hnumber hnone hlast =>
    exact .inr ⟨⟨⟨_, hid, hnumber⟩, hnone⟩, rfl⟩

/-- The setter of the empty name is not found, but the sign is recorded on the way. -/
theorem WellFormed.record_of_isEmptySetter (h : table.WellFormed floor)
    (hempty : table.IsEmptySetter id) (hnone : table.lookup ['='] = none)
    (hlast : table.lastSequence < SymbolId.maxSequence) :
    table.record id = (.error (.notFound id), table.countMiss.recordPlain ['=']) := by
  obtain ⟨sequence, rfl, hnumber⟩ := h.isEmptySetter_iff.mp hempty
  rw [record_of_get?_eq_none (h.get?_setter hnumber hnone), h.deriveSetter_of_empty hnumber,
    intern_plain hnone isPlain_sign hlast]

/-- The only reader of the empty name's setter is the empty name. -/
theorem WellFormed.lookup_of_isEmptySetter (h : table.WellFormed floor) {setter : SymbolId}
    (hcontains : table.contains id = true) (hscope : id.scope = .localName ∨ id.scope = .constant)
    (hsetter : id.withScope .setter = some setter) (hempty : table.IsEmptySetter setter) :
    table.lookup [] = some id := by
  rw [contains_eq_isSome_get?] at hcontains
  obtain ⟨record, hget⟩ := Option.isSome_iff_exists.mp hcontains
  have hlookup := h.lookup_of_get? hget
  rw [h.scope_eq hlookup] at hscope
  have hplain : IsPlain record.text := by
    unfold IsPlain
    rcases hscope with hscope | hscope <;> simp [hscope]
  obtain ⟨sequence, hnumber, rfl⟩ := h.exists_numbers hplain hlookup
  rw [SymbolId.withScope_dynamic (hnumber.low h) (hnumber.high h) _ (by simp),
    Option.some.injEq] at hsetter
  obtain ⟨other, rfl, hother⟩ := h.isEmptySetter_iff.mp hempty
  obtain ⟨rfl, -⟩ := SymbolId.dynamic_inj (hnumber.low h) (hnumber.high h) (hother.low h)
    (hother.high h) (by simp) (by simp) hsetter
  have htext := h.number_unique _ _ _ hnumber hother
  rw [htext] at hlookup ⊢
  exact hlookup

end Table

/-- The operations that answer from the text of an identifier. -/
def Operation.resolutions (id : SymbolId) : List Operation :=
  [.resolve id, .record id, .displayId id, .isEmptySymbol id, .upcase id, .downcase id,
    .capitalize id, .swapCase id]

theorem Operation.eq_of_mem_resolutions {operation : Operation} {id other : SymbolId}
    (h : operation ∈ Operation.resolutions id) (hother : operation ∈ Operation.resolutions other) :
    id = other := by
  simp only [Operation.resolutions, List.mem_cons, List.not_mem_nil, or_false] at h
  rcases h with rfl | rfl | rfl | rfl | rfl | rfl | rfl | rfl <;>
    simpa [Operation.resolutions] using hother

namespace Registry

/-- An operation fails to resolve an identifier: it answers that there is no such name or, asked
for the setter of the identifier, answers none. -/
inductive FailsOn (registry : Registry) (id : SymbolId) : Operation → Prop
  | notFound {operation : Operation} {unknown : SymbolId}
      (hmem : operation ∈ Operation.resolutions id)
      (hanswer : (registry.perform operation).1 = .fault (.notFound unknown)) :
      FailsOn registry id operation
  | noSetter (hanswer : (registry.perform (.setterOf id)).1 = .symbol? none) :
      FailsOn registry id (.setterOf id)

/-- Two registries hold the same records, look every text up alike and would give every text the
same identifier. -/
structure Unchanged (registry after : Registry) : Prop where
  records_eq : after.records = registry.records
  lookup_eq : ∀ text, after.lookup text = registry.lookup text
  intern_eq : ∀ text, (after.intern text).1 = (registry.intern text).1

/-- The empty name is recorded, the sign is not, and an operation asks for the setter of the empty
name. -/
def AsksEmptySetter (registry : Registry) (operation : Operation) : Prop :=
  ∃ reader setter, registry.lookup [] = some reader ∧ reader.withScope .setter = some setter ∧
    registry.lookup ['='] = none ∧
      (operation = .setterOf reader ∨ operation ∈ Operation.resolutions setter)

variable {floor : UInt64} {registry : Registry} {id unknown : SymbolId} {operation : Operation}

theorem unchanged_of_sameNames (h : registry.table.WellFormed floor) {table : Table}
    (hsame : registry.table.SameNames table) :
    registry.Unchanged { registry with table := table } where
  records_eq := hsame.records_eq
  lookup_eq := hsame.lookup_eq
  intern_eq := h.intern_fst_eq hsame

theorem ofOutcome_eq_fault {α σ : Type} {answer : α → Answer} {outcome : Except Fault α × σ}
    {fault : Fault} (hanswer : ∀ value, answer value ≠ .fault fault)
    (h : (Answer.ofOutcome answer outcome).1 = .fault fault) : outcome.1 = .error fault := by
  obtain ⟨result, after⟩ := outcome
  cases result with
  | ok value => exact absurd h (hanswer value)
  | error cause =>
    rw [Answer.ofOutcome, Answer.fault.injEq] at h
    rw [h]

theorem eq_error_of_map_eq_error {α β : Type} {image : α → β} {outcome : Except Fault α}
    {fault : Fault} (h : outcome.map image = .error fault) : outcome = .error fault := by
  cases outcome with
  | ok value => exact absurd h (by simp [Except.map])
  | error cause => exact congrArg Except.error (Except.error.inj h)

/-- A case mapping that finds no name has not come to intern anything. -/
theorem record_of_mapText_eq_notFound (h : registry.table.WellFormed floor) {image : Text → Text}
    (hanswer : (mapText image registry id).1 = .error (.notFound unknown)) :
    (registry.table.record id).1 = .error (.notFound unknown) ∧
      (mapText image registry id).2 = registry.afterRecord id := by
  have hafter := ((Table.steps_record registry.table id).grows h).wellFormed
  rw [mapText_eq] at hanswer ⊢
  cases hrecord : (registry.table.record id).1 with
  | ok record =>
    rw [hrecord] at hanswer
    exact absurd ((hafter.interns (image record.text)).fault_eq hanswer) (by simp)
  | error fault =>
    rw [hrecord] at hanswer
    exact ⟨congrArg Except.error (Except.error.inj hanswer), rfl⟩

/-- A resolution that finds no name has asked for the record of the identifier and has done
nothing else. -/
theorem record_of_perform_eq_notFound (h : registry.table.WellFormed floor)
    (hmem : operation ∈ Operation.resolutions id)
    (hanswer : (registry.perform operation).1 = .fault (.notFound unknown)) :
    (registry.table.record id).1 = .error (.notFound unknown) ∧
      (registry.perform operation).2 = registry.afterRecord id := by
  simp only [Operation.resolutions, List.mem_cons, List.not_mem_nil, or_false] at hmem
  rcases hmem with rfl | rfl | rfl | rfl | rfl | rfl | rfl | rfl <;>
    simp only [perform, ofOutcome_snd] at hanswer ⊢ <;>
    have houtcome := ofOutcome_eq_fault (by simp) hanswer
  · rw [resolve_eq] at houtcome ⊢
    exact ⟨eq_error_of_map_eq_error houtcome, rfl⟩
  · exact ⟨houtcome, rfl⟩
  · rw [displayId_eq] at houtcome ⊢
    exact ⟨eq_error_of_map_eq_error houtcome, rfl⟩
  · rw [isEmptySymbol_eq] at houtcome ⊢
    exact ⟨eq_error_of_map_eq_error houtcome, rfl⟩
  all_goals exact record_of_mapText_eq_notFound h houtcome

/-- An operation that finds no setter either stops before it resolves the setter's identifier, or
does not find a name there. -/
theorem setterOf_eq_none (hanswer : (registry.perform (.setterOf id)).1 = .symbol? none) :
    (registry.perform (.setterOf id)).2 = registry ∧
        ¬ (((id.scope = .localName ∨ id.scope = .constant) ∧ registry.contains id = true) ∧
          ∃ setter, id.withScope .setter = some setter) ∨
      ((id.scope = .localName ∨ id.scope = .constant) ∧ registry.contains id = true) ∧
        ∃ setter unknown, id.withScope .setter = some setter ∧
          (registry.table.record setter).1 = .error (.notFound unknown) ∧
            (registry.perform (.setterOf id)).2 = registry.afterRecord setter := by
  simp only [perform, ofOutcome_snd] at hanswer ⊢
  unfold setterOf at hanswer ⊢
  by_cases hguard :
      (id.scope = .localName ∨ id.scope = .constant) ∧ registry.contains id = true
  · rw [if_pos hguard] at hanswer ⊢
    cases hsetter : id.withScope .setter with
    | none => exact .inl ⟨rfl, by simp⟩
    | some setter =>
      simp only [hsetter, text?_eq] at hanswer ⊢
      cases hrecord : (registry.table.record setter).1 with
      | ok record => simp [hrecord, Answer.ofOutcome] at hanswer
      | error fault =>
        cases fault with
        | exhausted last => simp [hrecord, Answer.ofOutcome] at hanswer
        | notFound unknown => exact .inr ⟨hguard, setter, unknown, rfl, hrecord, rfl⟩
  · rw [if_neg hguard]
    exact .inl ⟨rfl, fun hsetter ↦ hguard hsetter.1⟩

/-- A resolution that finds no name changes the names exactly where it records the sign. -/
theorem unchanged_afterRecord_iff (h : registry.table.WellFormed floor)
    (hrecord : (registry.table.record id).1 = .error (.notFound unknown)) :
    registry.Unchanged (registry.afterRecord id) ↔
      ¬ (registry.table.IsEmptySetter id ∧ registry.lookup ['='] = none) := by
  rcases h.record_eq_notFound hrecord with ⟨hasks, hsame⟩ | ⟨hasks, hafter⟩
  · exact iff_of_true (unchanged_of_sameNames h hsame) hasks
  · refine iff_of_false (fun hunchanged ↦ ?_) (not_not.mpr hasks)
    have hsign : (registry.table.record id).2.lookup ['='] = registry.table.lookup ['='] :=
      hunchanged.lookup_eq ['=']
    rw [hafter, Table.lookup_recordPlain, if_pos rfl] at hsign
    exact absurd (hsign.trans hasks.2) (by simp)

theorem asksEmptySetter_iff_of_mem (hmem : operation ∈ Operation.resolutions id) :
    registry.AsksEmptySetter operation ↔
      registry.table.IsEmptySetter id ∧ registry.lookup ['='] = none := by
  constructor
  · rintro ⟨reader, setter, hlookup, hsetter, hsign, rfl | hother⟩
    · simp [Operation.resolutions] at hmem
    · obtain rfl := Operation.eq_of_mem_resolutions hmem hother
      exact ⟨⟨reader, hlookup, hsetter⟩, hsign⟩
  · rintro ⟨⟨reader, hlookup, hsetter⟩, hsign⟩
    exact ⟨reader, id, hlookup, hsetter, hsign, .inr hmem⟩

/-- A failed resolution leaves the names of a registry alone, except where it is asked for the
setter of the empty name while the sign of setters is not recorded. -/
theorem Reachable.unchanged_iff (h : registry.Reachable) (hfails : registry.FailsOn id operation) :
    registry.Unchanged (registry.perform operation).2 ↔
      ¬ registry.AsksEmptySetter operation := by
  have hinvariant := h.wellFormed
  cases hfails with
  | notFound hmem hanswer =>
    obtain ⟨hrecord, hafter⟩ := record_of_perform_eq_notFound hinvariant hmem hanswer
    rw [hafter, unchanged_afterRecord_iff hinvariant hrecord, asksEmptySetter_iff_of_mem hmem]
  | noSetter hanswer =>
    rcases setterOf_eq_none hanswer with
      ⟨hafter, hguard⟩ | ⟨⟨hscope, hcontains⟩, setter, unknown, hsetter, hrecord, hafter⟩
    · rw [hafter]
      refine iff_of_true (unchanged_of_sameNames hinvariant (.refl registry.table)) ?_
      rintro ⟨reader, setter, hlookup, hsetter, -, hreader | hmem⟩
      · obtain rfl := Operation.setterOf.inj hreader
        refine hguard ⟨⟨.inl (hinvariant.scope_eq hlookup), ?_⟩, setter, hsetter⟩
        rw [contains, Table.contains_eq_isSome_get?, (hinvariant.get?_iff [] id).mpr hlookup]
        rfl
      · simp [Operation.resolutions] at hmem
    · rw [hafter, unchanged_afterRecord_iff hinvariant hrecord, not_iff_not]
      constructor
      · rintro ⟨hempty, hsign⟩
        exact ⟨id, setter, hinvariant.lookup_of_isEmptySetter hcontains hscope hsetter hempty,
          hsetter, hsign, .inl rfl⟩
      · rintro ⟨reader, other, hlookup, hother, hsign, hreader | hmem⟩
        · obtain rfl := Operation.setterOf.inj hreader
          rw [hsetter] at hother
          exact ⟨⟨id, hlookup, hsetter⟩, hsign⟩
        · simp [Operation.resolutions] at hmem

theorem default_unchanged : ∃ start, Registry.create (.default ⟨8⟩) = .ok start ∧
    start.FailsOn ⟨8008⟩ (.resolve ⟨8008⟩) ∧
      start.Unchanged (start.perform (.resolve ⟨8008⟩)).2 := by
  have hinvariant := (wellFormed_of_create create_default).2
  have hget := hinvariant.get?_next (by decide) (by decide : Scope.localName ≠ .operator)
  have hid : SymbolId.dynamic ((RegistryConfig.default ⟨8⟩).sequenceFloor + 1) .localName =
      ⟨8008⟩ := by decide
  rw [lastSequence_bootstrap, hid] at hget
  have hrecord : (bootstrap (.default ⟨8⟩)).table.record ⟨8008⟩ =
      (.error (.notFound ⟨8008⟩), (bootstrap (.default ⟨8⟩)).table) := by
    rw [Table.record_of_get?_eq_none hget, Table.deriveSetter, if_neg (by decide)]
  have hfails : (bootstrap (.default ⟨8⟩)).FailsOn ⟨8008⟩ (.resolve ⟨8008⟩) := by
    have hanswer : ((bootstrap (.default ⟨8⟩)).perform (.resolve ⟨8008⟩)).1 =
        .fault (.notFound ⟨8008⟩) := by
      rw [perform, resolve_eq, hrecord]
      rfl
    exact .notFound (by simp [Operation.resolutions]) hanswer
  refine ⟨_, create_default, hfails,
    (Reachable.unchanged_iff (.create create_default) hfails).mpr ?_⟩
  rintro ⟨reader, setter, hlookup, -⟩
  rw [lookup, lookup_bootstrap_of_isPlain _ Table.isPlain_empty] at hlookup
  exact absurd hlookup (by simp)

/-- Once the empty name is interned, resolving the identifier of its setter answers that there is
no such name and records the sign of setters under the next sequence number. -/
theorem notFound_records_sign : ∃ start, Registry.create (.default ⟨8⟩) = .ok start ∧
    ((start.run [.intern []]).perform (.resolve ⟨8012⟩)).1 = .fault (.notFound ⟨8012⟩) ∧
      (start.run [.intern []]).lookup ['='] = none ∧
        ((start.run [.intern []]).perform (.resolve ⟨8012⟩)).2.lookup ['='] = some ⟨8023⟩ := by
  have hinvariant :=
    ((steps_run _ [.intern []]).table.grows (wellFormed_of_create create_default).2).wellFormed
  have hnumber := numbers_run_intern create_default Table.isPlain_empty
  have htable := table_run_intern create_default Table.isPlain_empty
  have hcount := Table.sameNames_countMiss (bootstrap (.default ⟨8⟩)).table
  have hnone : ((bootstrap (.default ⟨8⟩)).run [.intern []]).table.lookup ['='] = none := by
    rw [htable, Table.lookup_recordPlain, if_neg (by simp), hcount.lookup_eq,
      lookup_bootstrap_of_isPlain _ Table.isPlain_sign]
  have hlast : ((bootstrap (.default ⟨8⟩)).run [.intern []]).table.lastSequence = 1001 := by
    rw [htable, Table.lastSequence_recordPlain, hcount.lastSequence_eq, lastSequence_bootstrap]
    decide
  have hempty : ((bootstrap (.default ⟨8⟩)).run [.intern []]).table.IsEmptySetter ⟨8012⟩ :=
    ⟨_, hnumber.lookup_eq, by decide⟩
  have hrecord := hinvariant.record_of_isEmptySetter hempty hnone (by rw [hlast]; decide)
  refine ⟨_, create_default, ?_, hnone, ?_⟩
  · rw [perform, resolve_eq, hrecord]
    rfl
  · rw [perform, ofOutcome_snd, resolve_eq]
    change (Table.record _ _).2.lookup ['='] = _
    rw [hrecord, Table.lookup_recordPlain, if_pos rfl,
      (Table.sameNames_countMiss _).lastSequence_eq, hlast]
    decide

end Registry

end Interning
