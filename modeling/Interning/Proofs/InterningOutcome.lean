import Interning.Proofs.TableInvariant

/-!
# What one interning does

`Table.intern` recurses into the name before a setter's sign, allocates, and records. In a table
that satisfies the invariant this comes down to six cases, each with its answer and the whole table
it leaves behind: `Table.Interns` lists them and `Table.WellFormed.interns` proves the list
complete. A text is recorded already, or it is a plain name or a setter that is recorded now, a
setter with its name if that is new too; or the sequence is exhausted and nothing is recorded. The
allocation that gives a setter an identifier of its own is in no case taken, since what stands
before a setter's sign is a plain name (`Table.isPlain_of_classify_eq_setter`).

From the cases follows that an interning keeps the invariant and takes nothing away
(`Table.Interns.grows`), that the text looks up to the answer afterwards
(`Table.Interns.lookup_eq`), and that the answer depends on the names alone
(`Table.WellFormed.intern_fst_eq`).
-/

set_option autoImplicit false
set_option relaxedAutoImplicit false

namespace Interning

namespace Table

variable {floor : UInt64} {table after : Table} {text base : Text} {id : SymbolId}
  {sequence : UInt64}

/-! ### Steps of an interning -/

theorem fresh_of_lt (hlast : table.lastSequence < SymbolId.maxSequence) (scope : Scope) :
    table.fresh scope = (.ok (.dynamic (table.lastSequence + 1) scope),
      { table with lastSequence := table.lastSequence + 1 }) := by
  rw [fresh, if_pos hlast]
  rfl

theorem fresh_of_not_lt (hlast : ¬ table.lastSequence < SymbolId.maxSequence) (scope : Scope) :
    table.fresh scope = (.error (.exhausted table.lastSequence), table) := by
  rw [fresh, if_neg hlast]

/-- The identifier that a text without a record is to have. -/
def allocate (table : Table) (text : Text) : Except Fault SymbolId × Table :=
  match classify text with
  | .setter =>
    match table.intern text.dropLast with
    | (.ok base, after) =>
      match base.withScope .setter with
      | some id => (.ok id, after)
      | none => after.fresh .junk
    | failed => failed
  | .operator =>
    match Token.find? text with
    | some token => (.ok token.id, table)
    | none => table.fresh .junk
  | scope => table.fresh scope

theorem intern_of_lookup_eq_some (hlookup : table.lookup text = some id) :
    table.intern text = (.ok id, table.countHit) := by
  rw [intern, hlookup]

theorem intern_of_lookup_eq_none (hnone : table.lookup text = none) :
    table.intern text =
      match table.countMiss.allocate text with
      | (.ok id, after) => (.ok (after.publish text id).1, (after.publish text id).2)
      | failed => failed := by
  rw [intern, hnone, allocate]
  cases classify text <;> rfl

theorem allocate_of_isPlain (hplain : IsPlain text) :
    table.allocate text = table.fresh (classify text) := by
  unfold allocate
  cases hscope : classify text with
  | operator => exact absurd hscope hplain.1
  | setter => exact absurd hscope hplain.2
  | _ => rfl

theorem allocate_of_setter (hscope : classify (base ++ ['=']) = .setter) :
    table.allocate (base ++ ['=']) =
      match table.intern base with
      | (.ok reader, after) =>
        match reader.withScope .setter with
        | some id => (.ok id, after)
        | none => after.fresh .junk
      | failed => failed := by
  unfold allocate
  rw [hscope, List.dropLast_concat]

/-- What stands before the sign of a setter takes a sequence number of its own. -/
theorem isPlain_of_classify_eq_setter (hscope : classify (base ++ ['=']) = .setter) :
    IsPlain base := by
  obtain ⟨other, htext, -, hother⟩ := exists_base_of_classify_eq_setter hscope
  obtain rfl := List.append_cancel_right htext
  unfold IsPlain
  rcases hother with h | h | h <;> simp [h]

/-! ### Interning, case by case -/

theorem intern_plain (hnone : table.lookup text = none) (hplain : IsPlain text)
    (hlast : table.lastSequence < SymbolId.maxSequence) :
    table.intern text =
      (.ok (.dynamic (table.lastSequence + 1) (classify text)),
        table.countMiss.recordPlain text) := by
  have hmiss := sameNames_countMiss table
  have hcount := hmiss.lastSequence_eq
  have hmissed : ({ table.countMiss with lastSequence := table.lastSequence + 1 } : Table).lookup
      text = none := (hmiss.lookup_eq text).trans hnone
  rw [intern_of_lookup_eq_none hnone, allocate_of_isPlain hplain,
    fresh_of_lt (by rwa [hcount]), hcount]
  simp only [publish_of_lookup_eq_none hmissed]
  rw [recordPlain, hcount]

theorem intern_plain_exhausted (hnone : table.lookup text = none) (hplain : IsPlain text)
    (hlast : ¬ table.lastSequence < SymbolId.maxSequence) :
    table.intern text = (.error (.exhausted table.lastSequence), table.countMiss) := by
  have hcount := (sameNames_countMiss table).lastSequence_eq
  rw [intern_of_lookup_eq_none hnone, allocate_of_isPlain hplain,
    fresh_of_not_lt (by rwa [hcount]), hcount]

/-- A setter whose name is recorded takes the sequence number of the name. -/
theorem intern_setter (h : table.WellFormed floor) (hnone : table.lookup (base ++ ['=']) = none)
    (hscope : classify (base ++ ['=']) = .setter)
    (hnumber : table.Numbers floor base sequence) :
    table.intern (base ++ ['=']) =
      (.ok (.dynamic sequence .setter), table.countMiss.countHit.recordSetter base sequence) := by
  have hbase := ((sameNames_countMiss table).lookup_eq base).trans hnumber.lookup_eq
  have hsame := (sameNames_countMiss table).trans (sameNames_countHit table.countMiss)
  have hmissed : table.countMiss.countHit.lookup (base ++ ['=']) = none :=
    (hsame.lookup_eq _).trans hnone
  have hsetter : (SymbolId.dynamic sequence (classify base)).withScope .setter =
      some (.dynamic sequence .setter) :=
    SymbolId.withScope_dynamic (hnumber.low h) (hnumber.high h) (classify base) (by simp)
  rw [intern_of_lookup_eq_none hnone, allocate_of_setter hscope,
    intern_of_lookup_eq_some hbase]
  simp only [hsetter, publish_of_lookup_eq_none hmissed]
  rfl

/-- A setter whose name is not recorded records the name first. -/
theorem intern_setter_of_lookup_eq_none (h : table.WellFormed floor)
    (hnone : table.lookup (base ++ ['=']) = none)
    (hscope : classify (base ++ ['=']) = .setter) (hbase : table.lookup base = none)
    (hlast : table.lastSequence < SymbolId.maxSequence) :
    table.intern (base ++ ['=']) =
      (.ok (.dynamic (table.lastSequence + 1) .setter),
        (table.countMiss.countMiss.recordPlain base).recordSetter base
          (table.lastSequence + 1)) := by
  have hcount := (sameNames_countMiss table).lastSequence_eq
  have hmissed := ((sameNames_countMiss table).lookup_eq base).trans hbase
  have hsame := (sameNames_countMiss table).trans (sameNames_countMiss table.countMiss)
  have hfree : (table.countMiss.countMiss.recordPlain base).lookup (base ++ ['=']) = none := by
    rw [lookup_recordPlain, if_neg (by simp)]
    exact (hsame.lookup_eq _).trans hnone
  have hlow : 125 ≤ table.lastSequence + 1 :=
    h.low_of_lt (UInt64.lt_of_le_of_lt h.floor_le (SymbolId.lt_succ hlast))
  have hsetter : (SymbolId.dynamic (table.lastSequence + 1) (classify base)).withScope .setter =
      some (.dynamic (table.lastSequence + 1) .setter) :=
    SymbolId.withScope_dynamic hlow (SymbolId.succ_le_maxSequence hlast) (classify base) (by simp)
  rw [intern_of_lookup_eq_none hnone, allocate_of_setter hscope,
    intern_plain hmissed (isPlain_of_classify_eq_setter hscope) (by rwa [hcount]), hcount]
  simp only [hsetter, publish_of_lookup_eq_none hfree]
  rfl

theorem intern_setter_exhausted (hnone : table.lookup (base ++ ['=']) = none)
    (hscope : classify (base ++ ['=']) = .setter) (hbase : table.lookup base = none)
    (hlast : ¬ table.lastSequence < SymbolId.maxSequence) :
    table.intern (base ++ ['=']) =
      (.error (.exhausted table.lastSequence), table.countMiss.countMiss) := by
  have hcount := (sameNames_countMiss table).lastSequence_eq
  have hmissed := ((sameNames_countMiss table).lookup_eq base).trans hbase
  rw [intern_of_lookup_eq_none hnone, allocate_of_setter hscope,
    intern_plain_exhausted hmissed (isPlain_of_classify_eq_setter hscope) (by rwa [hcount]),
    hcount]

/-- What interning a text answers, and the table it leaves behind. -/
inductive Interns (floor : UInt64) (table : Table) :
    Text → Except Fault SymbolId × Table → Prop
  | known {text : Text} {id : SymbolId} (hlookup : table.lookup text = some id) :
      Interns floor table text (.ok id, table.countHit)
  | plain {text : Text} (hnone : table.lookup text = none) (hplain : IsPlain text)
      (hlast : table.lastSequence < SymbolId.maxSequence) :
      Interns floor table text (.ok (.dynamic (table.lastSequence + 1) (classify text)),
        table.countMiss.recordPlain text)
  | setter {base : Text} {sequence : UInt64} (hnone : table.lookup (base ++ ['=']) = none)
      (hscope : classify (base ++ ['=']) = .setter)
      (hnumber : table.Numbers floor base sequence) :
      Interns floor table (base ++ ['=']) (.ok (.dynamic sequence .setter),
        table.countMiss.countHit.recordSetter base sequence)
  | setterAndBase {base : Text} (hnone : table.lookup (base ++ ['=']) = none)
      (hscope : classify (base ++ ['=']) = .setter) (hbase : table.lookup base = none)
      (hlast : table.lastSequence < SymbolId.maxSequence) :
      Interns floor table (base ++ ['=']) (.ok (.dynamic (table.lastSequence + 1) .setter),
        (table.countMiss.countMiss.recordPlain base).recordSetter base (table.lastSequence + 1))
  | plainExhausted {text : Text} (hnone : table.lookup text = none) (hplain : IsPlain text)
      (hlast : ¬ table.lastSequence < SymbolId.maxSequence) :
      Interns floor table text (.error (.exhausted table.lastSequence), table.countMiss)
  | setterExhausted {base : Text} (hnone : table.lookup (base ++ ['=']) = none)
      (hscope : classify (base ++ ['=']) = .setter) (hbase : table.lookup base = none)
      (hlast : ¬ table.lastSequence < SymbolId.maxSequence) :
      Interns floor table (base ++ ['=']) (.error (.exhausted table.lastSequence),
        table.countMiss.countMiss)

/-- A text without a record is a plain name or a setter, since the operators are recorded. -/
theorem WellFormed.isPlain_or_setter (h : table.WellFormed floor)
    (hnone : table.lookup text = none) : IsPlain text ∨ classify text = .setter := by
  by_cases hscope : classify text = .setter
  · exact .inr hscope
  · refine .inl ⟨fun hoperator ↦ ?_, hscope⟩
    obtain ⟨token, htoken, rfl⟩ := classify_eq_operator_iff.mp hoperator
    rw [h.operator token htoken] at hnone
    exact absurd hnone (by simp)

/-- Every interning in a table that satisfies the invariant is one of six. -/
theorem WellFormed.interns (h : table.WellFormed floor) (text : Text) :
    table.Interns floor text (table.intern text) := by
  cases hlookup : table.lookup text with
  | some id =>
    rw [intern_of_lookup_eq_some hlookup]
    exact .known hlookup
  | none =>
    rcases h.isPlain_or_setter hlookup with hplain | hscope
    · by_cases hlast : table.lastSequence < SymbolId.maxSequence
      · rw [intern_plain hlookup hplain hlast]
        exact .plain hlookup hplain hlast
      · rw [intern_plain_exhausted hlookup hplain hlast]
        exact .plainExhausted hlookup hplain hlast
    · obtain ⟨base, rfl, -, -⟩ := exists_base_of_classify_eq_setter hscope
      cases hbase : table.lookup base with
      | some id =>
        obtain ⟨sequence, hnumber, -⟩ :=
          h.exists_numbers (isPlain_of_classify_eq_setter hscope) hbase
        rw [intern_setter h hlookup hscope hnumber]
        exact .setter hlookup hscope hnumber
      | none =>
        by_cases hlast : table.lastSequence < SymbolId.maxSequence
        · rw [intern_setter_of_lookup_eq_none h hlookup hscope hbase hlast]
          exact .setterAndBase hlookup hscope hbase hlast
        · rw [intern_setter_exhausted hlookup hscope hbase hlast]
          exact .setterExhausted hlookup hscope hbase hlast

/-- An interning writes at free texts and free identifiers only, and keeps the invariant. -/
theorem Interns.grows {outcome : Except Fault SymbolId × Table}
    (hinterns : table.Interns floor text outcome) (h : table.WellFormed floor) :
    table.Grows floor outcome.2 := by
  have hmiss := sameNames_countMiss table
  cases hinterns with
  | known hlookup => exact h.grows (sameNames_countHit table)
  | plain hnone hplain hlast =>
    have hcounted := h.grows hmiss
    rw [← hmiss.lastSequence_eq] at hlast
    rw [← hmiss.lookup_eq] at hnone
    exact hcounted.trans (hcounted.wellFormed.grows_recordPlain hlast hplain hnone)
  | @setter base sequence hnone hscope hnumber =>
    have hsame := hmiss.trans (sameNames_countHit table.countMiss)
    have hcounted := h.grows hsame
    rw [← hsame.lookup_eq] at hnone
    exact hcounted.trans (hcounted.wellFormed.grows_recordSetter
      (hcounted.extends_table.numbers hnumber) hscope hnone)
  | @setterAndBase base hnone hscope hbase hlast =>
    have hsame := hmiss.trans (sameNames_countMiss table.countMiss)
    have hcounted := h.grows hsame
    have hplain := isPlain_of_classify_eq_setter hscope
    rw [← hsame.lastSequence_eq] at hlast ⊢
    rw [← hsame.lookup_eq] at hnone hbase
    have hrecorded := hcounted.wellFormed.grows_recordPlain hlast hplain hbase
    have hnumber := (numbers_recordPlain_iff hcounted.wellFormed hlast hplain hbase).mpr
      (.inr ⟨rfl, rfl⟩)
    refine (hcounted.trans hrecorded).trans
      (hrecorded.wellFormed.grows_recordSetter hnumber hscope ?_)
    rw [lookup_recordPlain, if_neg (by simp), hnone]
  | plainExhausted => exact h.grows hmiss
  | setterExhausted => exact h.grows (hmiss.trans (sameNames_countMiss table.countMiss))

/-- An interning that answers leaves the text recorded under its answer. -/
theorem Interns.lookup_eq (hinterns : table.Interns floor text (.ok id, after)) :
    after.lookup text = some id := by
  cases hinterns with
  | known hlookup => exact ((sameNames_countHit table).lookup_eq text).trans hlookup
  | plain =>
    rw [lookup_recordPlain, if_pos rfl, (sameNames_countMiss table).lastSequence_eq]
  | setter => rw [lookup_recordSetter, if_pos rfl]
  | setterAndBase => rw [lookup_recordSetter, if_pos rfl]

/-- An interning that fails found the sequence numbers exhausted. -/
theorem Interns.fault_eq {outcome : Except Fault SymbolId × Table} {fault : Fault}
    (hinterns : table.Interns floor text outcome) (h : outcome.1 = .error fault) :
    fault = .exhausted table.lastSequence := by
  cases hinterns <;> simp_all

/-- Tables with the same names intern alike. -/
theorem WellFormed.intern_fst_eq (h : table.WellFormed floor) (hsame : table.SameNames after)
    (text : Text) : (after.intern text).1 = (table.intern text).1 := by
  have hafter := hsame.wellFormed h
  have hlast := hsame.lastSequence_eq
  have hinterns := h.interns text
  generalize table.intern text = outcome at hinterns ⊢
  cases hinterns with
  | known hlookup =>
    rw [← hsame.lookup_eq] at hlookup
    rw [intern_of_lookup_eq_some hlookup]
  | plain hnone hplain hlt =>
    rw [← hsame.lookup_eq] at hnone
    rw [← hlast] at hlt
    rw [intern_plain hnone hplain hlt, hlast]
  | setter hnone hscope hnumber =>
    rw [← hsame.lookup_eq] at hnone
    rw [intern_setter hafter hnone hscope (hsame.extends.numbers hnumber)]
  | setterAndBase hnone hscope hbase hlt =>
    rw [← hsame.lookup_eq] at hnone hbase
    rw [← hlast] at hlt
    rw [intern_setter_of_lookup_eq_none hafter hnone hscope hbase hlt, hlast]
  | plainExhausted hnone hplain hlt =>
    rw [← hsame.lookup_eq] at hnone
    rw [← hlast] at hlt
    rw [intern_plain_exhausted hnone hplain hlt, hlast]
  | setterExhausted hnone hscope hbase hlt =>
    rw [← hsame.lookup_eq] at hnone hbase
    rw [← hlast] at hlt
    rw [intern_setter_exhausted hnone hscope hbase hlt, hlast]

end Table

/-- The first name of a new registry takes the number after the floor. -/
theorem Registry.intern_of_create {config : RegistryConfig} {start : Registry} {text : Text}
    (hstart : Registry.create config = .ok start) (hplain : IsPlain text) :
    start.table.intern text =
      (.ok (.dynamic (config.sequenceFloor + 1) (classify text)),
        start.table.countMiss.recordPlain text) := by
  obtain ⟨hvalid, rfl⟩ := create_eq_ok_iff.mp hstart
  exact Table.intern_plain (lookup_bootstrap_of_isPlain config hplain) hplain
    (RegistryConfig.floor_of_validate hvalid).2

end Interning
