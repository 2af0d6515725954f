import Interning.Proofs.RegistrySteps
import Interning.Proofs.ResolutionOutcome

/-!
# The names of identifiers

An identifier has a name when a text is recorded under it, and a setter's identifier also when it
has no record yet: the name is then the setter of the local name or constant with its sequence
number. `Table.Names` says so without resolving anything, and `Table.WellFormed.record_eq_ok_iff`
proves that a resolution answers exactly these names.

What has a name keeps it while the table grows (`Table.Names.of_extends`), whether a resolution has
recorded it in the meantime or not.
-/

set_option autoImplicit false
set_option relaxedAutoImplicit false

namespace Interning

namespace Table

variable {floor : UInt64} {table after : Table} {text base : Text} {id : SymbolId}

/-- A text is the name of an identifier: it is recorded under the identifier, or it is the setter
of a local name or constant and has the identifier that it would be recorded under. -/
inductive Names (floor : UInt64) (table : Table) (id : SymbolId) : Text → Prop
  | recorded {text : Text} (hlookup : table.lookup text = some id) : Names floor table id text
  | derivable {base : Text} {sequence : UInt64} (hid : id = .dynamic sequence .setter)
      (hnumber : table.Numbers floor base sequence)
      (hscope : classify base = .localName ∨ classify base = .constant) (hne : base ≠ []) :
      Names floor table id (base ++ ['='])

theorem Names.of_extends (hnames : table.Names floor id text) (h : table.Extends after) :
    after.Names floor id text := by
  cases hnames with
  | recorded hlookup => exact .recorded (h.lookup_eq _ _ hlookup)
  | derivable hid hnumber hscope hne => exact .derivable hid (h.numbers hnumber) hscope hne

/-- A recorded setter stands under the number of its name. -/
theorem WellFormed.numbers_of_lookup_setter (h : table.WellFormed floor)
    (hscope : classify (base ++ ['=']) = .setter)
    (hlookup : table.lookup (base ++ ['=']) = some id) :
    ∃ sequence, table.Numbers floor base sequence ∧ id = .dynamic sequence .setter := by
  generalize htext : base ++ ['='] = text at hscope hlookup
  cases h.entry text id hlookup with
  | operator htoken =>
    rw [classify_eq_operator_iff.mpr ⟨_, htoken, rfl⟩] at hscope
    exact absurd hscope (by decide)
  | plain hnumber => exact absurd hscope hnumber.plain.2
  | setter hnumber _ =>
    obtain rfl := List.append_cancel_right htext
    exact ⟨_, hnumber, rfl⟩

/-- What is recorded under the setter's identifier of a numbered name is the setter of the name. -/
theorem WellFormed.text_of_get?_setter (h : table.WellFormed floor) {sequence : UInt64}
    (hnumber : table.Numbers floor base sequence) {record : Record}
    (hget : table.get? (.dynamic sequence .setter) = some record) :
    record.text = base ++ ['='] := by
  rcases h.numbers_of_dynamic (hnumber.low h) (hnumber.high h) (by simp) (h.lookup_of_get? hget)
    with ⟨hother, hscope⟩ | ⟨other, htext, hother, -⟩
  · exact absurd hscope.symm hother.plain.2
  · rw [htext, h.number_unique _ _ _ hother hnumber]

/-- A resolution answers the record of the identifier that it is asked for. -/
theorem WellFormed.id_of_record_eq_ok (h : table.WellFormed floor) {record : Record}
    (hrecord : (table.record id).1 = .ok record) : record.id = id := by
  have hresolves := h.resolves id
  generalize table.record id = outcome at hresolves hrecord
  obtain ⟨answer, after⟩ := outcome
  obtain rfl : answer = .ok record := hrecord
  cases hresolves with
  | known hget => exact (get?_eq_some_iff.mp hget).1
  | derived => rfl

/-- A resolution finds exactly the names of identifiers. -/
theorem WellFormed.record_eq_ok_iff (h : table.WellFormed floor) :
    (table.record id).1 = .ok ⟨id, text⟩ ↔ table.Names floor id text := by
  constructor
  · intro hrecord
    have hresolves := h.resolves id
    generalize table.record id = outcome at hresolves hrecord
    obtain ⟨answer, after⟩ := outcome
    obtain rfl : answer = .ok ⟨id, text⟩ := hrecord
    cases hresolves with
    | known hget => exact .recorded ((h.get?_iff text id).mp hget)
    | derived _ hid hnumber hscope hne _ => exact .derivable hid hnumber hscope hne
  · intro hnames
    cases hnames with
    | recorded hlookup => rw [record_of_get?_eq_some ((h.get?_iff text id).mpr hlookup)]
    | @derivable base sequence hid hnumber hscope hne =>
      subst hid
      cases hget : table.get? (.dynamic sequence .setter) with
      | some record =>
        obtain ⟨hid, -⟩ := get?_eq_some_iff.mp hget
        have htext := h.text_of_get?_setter hnumber hget
        rw [record_of_get?_eq_some hget]
        cases record
        simp_all
      | none =>
        have hnone := h.lookup_eq_none_of_get?_setter hnumber
          (classify_append_sign_eq_setter hne hscope) hget
        rw [record_of_get?_eq_none hget, h.deriveSetter_of_numbers hnumber hscope hne hnone]

end Table

namespace Registry

variable {floor : UInt64} {registry : Registry} {id : SymbolId} {text : Text}

theorem resolve_eq_ok_iff (h : registry.table.WellFormed floor) :
    (registry.resolve id).1 = .ok text ↔ registry.table.Names floor id text := by
  rw [← h.record_eq_ok_iff, resolve_eq]
  cases hrecord : (registry.table.record id).1 with
  | error fault => simp [Except.map]
  | ok record =>
    have hid := h.id_of_record_eq_ok hrecord
    cases record
    subst hid
    simp [Except.map]

end Registry

end Interning
