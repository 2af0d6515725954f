import Interning.Proofs.InterningOutcome

/-!
# What one resolution does

`Table.record` answers from the map of identifiers, or else derives the setter of a recorded name.
`Table.Resolves` lists the six things that can come of it, with the answer and the whole table it
leaves behind, and `Table.WellFormed.resolves` proves the list complete for every identifier.

The invariant leaves one name for each sequence number, so the reader of a setter's identifier is
determined (`Table.WellFormed.reader?_of_numbers`, `Table.WellFormed.numbers_of_reader?`), and what
the derivation interns is the setter of that name, under the very identifier that was asked for
(`Table.WellFormed.deriveSetter_of_numbers`). The empty name is the exception, since a sign alone is
no setter (`Table.WellFormed.deriveSetter_of_empty`).
-/

set_option autoImplicit false
set_option relaxedAutoImplicit false

namespace Interning

namespace Table

variable {floor : UInt64} {table after : Table} {text base : Text} {id : SymbolId}
  {sequence : UInt64}

/-! ### Readers of a setter's identifier -/

theorem WellFormed.get?_of_numbers (h : table.WellFormed floor)
    (hnumber : table.Numbers floor base sequence) :
    table.get? (.dynamic sequence (classify base)) =
      some ⟨.dynamic sequence (classify base), base⟩ :=
  (h.get?_iff _ _).mpr hnumber.lookup_eq

/-- The only name of a sequence number is recorded under no other scope. -/
theorem WellFormed.get?_of_ne (h : table.WellFormed floor)
    (hnumber : table.Numbers floor base sequence) {scope : Scope} (hoperator : scope ≠ .operator)
    (hsetter : scope ≠ .setter) (hne : scope ≠ classify base) :
    table.get? (.dynamic sequence scope) = none := by
  by_contra hget
  obtain ⟨record, hrecord⟩ := Option.ne_none_iff_exists'.mp hget
  rcases h.numbers_of_dynamic (hnumber.low h) (hnumber.high h) hoperator
    (h.lookup_of_get? hrecord) with ⟨hother, hscope⟩ | ⟨_, -, -, hscope⟩
  · rw [h.number_unique _ _ _ hother hnumber] at hscope
    exact hne hscope
  · exact hsetter hscope

theorem reader?_dynamic (hlow : 125 ≤ sequence) (hhigh : sequence ≤ SymbolId.maxSequence) :
    table.reader? (.dynamic sequence .setter) =
      (table.get? (.dynamic sequence .localName)).or
        (table.get? (.dynamic sequence .constant)) := by
  have hwith {scope : Scope} (hscope : scope ≠ .operator) :
      (SymbolId.dynamic sequence .setter).withScope scope = some (.dynamic sequence scope) :=
    SymbolId.withScope_dynamic hlow hhigh .setter hscope
  simp only [reader?, List.findSome?_cons, List.findSome?_nil]
  rw [hwith (by simp), hwith (by simp), Option.bind_some, Option.bind_some]
  cases table.get? (.dynamic sequence .localName) with
  | some record => rfl
  | none => cases table.get? (.dynamic sequence .constant) <;> rfl

/-- The reader of a setter's identifier is the local name or constant of its number. -/
theorem WellFormed.reader?_of_numbers (h : table.WellFormed floor)
    (hnumber : table.Numbers floor base sequence)
    (hscope : classify base = .localName ∨ classify base = .constant) :
    table.reader? (.dynamic sequence .setter) =
      some ⟨.dynamic sequence (classify base), base⟩ := by
  have hget := h.get?_of_numbers hnumber
  rw [reader?_dynamic (hnumber.low h) (hnumber.high h)]
  rcases hscope with hscope | hscope
  · rw [hscope] at hget ⊢
    rw [hget, Option.some_or]
  · have hlocal : table.get? (.dynamic sequence .localName) = none :=
      h.get?_of_ne hnumber (by simp) (by simp) (by simp [hscope])
    rw [hscope] at hget ⊢
    rw [hlocal, hget, Option.none_or]

/-- Nothing else is ever the reader of a setter's identifier. -/
theorem WellFormed.numbers_of_reader? (h : table.WellFormed floor) {record : Record}
    (hlow : 125 ≤ sequence) (hhigh : sequence ≤ SymbolId.maxSequence)
    (hreader : table.reader? (.dynamic sequence .setter) = some record) :
    table.Numbers floor record.text sequence ∧
      (classify record.text = .localName ∨ classify record.text = .constant) := by
  have hnumbers {scope : Scope} (hscope : scope = .localName ∨ scope = .constant)
      (hget : table.get? (.dynamic sequence scope) = some record) :
      table.Numbers floor record.text sequence ∧ scope = classify record.text := by
    rcases h.numbers_of_dynamic hlow hhigh (by rcases hscope with rfl | rfl <;> simp)
      (h.lookup_of_get? hget) with hname | ⟨_, -, -, rfl⟩
    · exact hname
    · simp at hscope
  rw [reader?_dynamic hlow hhigh, Option.or_eq_some_iff] at hreader
  rcases hreader with hget | ⟨-, hget⟩
  · obtain ⟨hnumber, hscope⟩ := hnumbers (.inl rfl) hget
    exact ⟨hnumber, .inl hscope.symm⟩
  · obtain ⟨hnumber, hscope⟩ := hnumbers (.inr rfl) hget
    exact ⟨hnumber, .inr hscope.symm⟩

/-! ### Resolution -/

/-- What resolving an identifier answers, and the table it leaves behind. The empty name is a
local name without a setter: its sign alone is junk, so a resolution that goes through it
interns the sign and answers nothing. -/
inductive Resolves (floor : UInt64) (table : Table) (id : SymbolId) :
    Except Fault Record × Table → Prop
  | known {record : Record} (hget : table.get? id = some record) :
      Resolves floor table id (.ok record, table)
  | derived {base : Text} {sequence : UInt64} (hget : table.get? id = none)
      (hid : id = .dynamic sequence .setter) (hnumber : table.Numbers floor base sequence)
      (hscope : classify base = .localName ∨ classify base = .constant) (hne : base ≠ [])
      (hnone : table.lookup (base ++ ['=']) = none) :
      Resolves floor table id (.ok ⟨id, base ++ ['=']⟩,
        (table.countMiss.countHit.recordSetter base sequence).countDerived)
  | unknown (hget : table.get? id = none)
      (hreader : ∀ base sequence, id = .dynamic sequence .setter →
        table.Numbers floor base sequence →
        ¬ (classify base = .localName ∨ classify base = .constant)) :
      Resolves floor table id (.error (.notFound id), table)
  | emptyKnown {sequence : UInt64} {sign : SymbolId} (hget : table.get? id = none)
      (hid : id = .dynamic sequence .setter) (hnumber : table.Numbers floor [] sequence)
      (hsign : table.lookup ['='] = some sign) :
      Resolves floor table id (.error (.notFound id), table.countHit)
  | emptyNew {sequence : UInt64} (hget : table.get? id = none)
      (hid : id = .dynamic sequence .setter) (hnumber : table.Numbers floor [] sequence)
      (hnone : table.lookup ['='] = none)
      (hlast : table.lastSequence < SymbolId.maxSequence) :
      Resolves floor table id (.error (.notFound id), table.countMiss.recordPlain ['='])
  | emptyExhausted {sequence : UInt64} (hget : table.get? id = none)
      (hid : id = .dynamic sequence .setter) (hnumber : table.Numbers floor [] sequence)
      (hnone : table.lookup ['='] = none)
      (hlast : ¬ table.lastSequence < SymbolId.maxSequence) :
      Resolves floor table id (.error (.exhausted table.lastSequence), table.countMiss)

theorem deriveSetter_of_reader?_eq_none (hreader : table.reader? id = none) :
    table.deriveSetter id = (.ok none, table) := by
  unfold deriveSetter
  rw [hreader]
  split <;> rfl

/-- The setter of a nonempty name that is not recorded yet is derived. -/
theorem WellFormed.deriveSetter_of_numbers (h : table.WellFormed floor)
    (hnumber : table.Numbers floor base sequence)
    (hscope : classify base = .localName ∨ classify base = .constant) (hne : base ≠ [])
    (hnone : table.lookup (base ++ ['=']) = none) :
    table.deriveSetter (.dynamic sequence .setter) =
      (.ok (some ⟨.dynamic sequence .setter, base ++ ['=']⟩),
        (table.countMiss.countHit.recordSetter base sequence).countDerived) := by
  have hsetter : (SymbolId.dynamic sequence .setter).scope = .setter :=
    SymbolId.scope_dynamic (hnumber.low h) (hnumber.high h) (by simp)
  unfold deriveSetter
  rw [if_pos hsetter, h.reader?_of_numbers hnumber hscope]
  simp only [intern_setter h hnone (classify_append_sign_eq_setter hne hscope) hnumber, if_true]
  rw [(sameNames_countDerived _).get?_eq, get?_recordSetter, if_pos rfl]

theorem isPlain_empty : IsPlain [] := by
  constructor <;> decide

theorem isPlain_sign : IsPlain ['='] := by
  constructor <;> decide

/-- The sign that the empty name has for a setter is junk, under an identifier of its own. -/
theorem WellFormed.deriveSetter_of_empty (h : table.WellFormed floor)
    (hnumber : table.Numbers floor [] sequence) :
    table.deriveSetter (.dynamic sequence .setter) =
      match table.intern ['='] with
      | (.ok _, after) => (.ok none, after)
      | (.error fault, after) => (.error fault, after) := by
  have hsetter : (SymbolId.dynamic sequence .setter).scope = .setter :=
    SymbolId.scope_dynamic (hnumber.low h) (hnumber.high h) (by simp)
  have hreader := h.reader?_of_numbers hnumber (.inl rfl)
  have hinterns := h.interns ['=']
  unfold deriveSetter
  rw [if_pos hsetter, hreader]
  simp only [List.nil_append]
  generalize table.intern ['='] = outcome at hinterns ⊢
  obtain ⟨answer, after⟩ := outcome
  cases answer with
  | error fault => rfl
  | ok derived =>
    have hscope : derived.scope = .junk :=
      (hinterns.grows h).wellFormed.scope_eq hinterns.lookup_eq
    have hne : derived ≠ .dynamic sequence .setter := by
      rintro rfl
      rw [hsetter] at hscope
      exact absurd hscope (by decide)
    simp only [if_neg hne]

theorem record_of_get?_eq_some {record : Record} (hget : table.get? id = some record) :
    table.record id = (.ok record, table) := by
  rw [Table.record, hget]

/-- A recorded text is what its identifier resolves to. -/
theorem WellFormed.resolve_of_lookup (h : table.WellFormed floor)
    (hlookup : table.lookup text = some id) : table.resolve id = (.ok text, table) := by
  rw [resolve, record_of_get?_eq_some ((h.get?_iff text id).mpr hlookup)]

theorem record_of_get?_eq_none (hget : table.get? id = none) :
    table.record id =
      match table.deriveSetter id with
      | (.ok (some record), after) => (.ok record, after)
      | (.ok none, after) => (.error (.notFound id), after)
      | (.error fault, after) => (.error fault, after) := by
  unfold Table.record
  split
  · next hrecord =>
    rw [hget] at hrecord
    exact absurd hrecord (by simp)
  · rfl

/-- A setter has no record while the identifier that it would have is free. -/
theorem WellFormed.lookup_eq_none_of_get?_setter (h : table.WellFormed floor)
    (hnumber : table.Numbers floor base sequence)
    (hscope : classify (base ++ ['=']) = .setter)
    (hget : table.get? (.dynamic sequence .setter) = none) :
    table.lookup (base ++ ['=']) = none := by
  by_contra hlookup
  obtain ⟨setter, hsetter⟩ := Option.ne_none_iff_exists'.mp hlookup
  obtain rfl := h.eq_of_lookup_setter hnumber hscope hsetter
  rw [(h.get?_iff _ _).mpr hsetter] at hget
  exact absurd hget (by simp)

theorem WellFormed.resolves_of_numbers (h : table.WellFormed floor)
    (hget : table.get? (.dynamic sequence .setter) = none)
    (hnumber : table.Numbers floor base sequence)
    (hscope : classify base = .localName ∨ classify base = .constant) :
    table.Resolves floor (.dynamic sequence .setter)
      (table.record (.dynamic sequence .setter)) := by
  rw [record_of_get?_eq_none hget]
  by_cases hne : base = []
  · subst hne
    rw [h.deriveSetter_of_empty hnumber]
    cases hsign : table.lookup ['='] with
    | some sign =>
      rw [intern_of_lookup_eq_some hsign]
      exact .emptyKnown hget rfl hnumber hsign
    | none =>
      by_cases hlast : table.lastSequence < SymbolId.maxSequence
      · rw [intern_plain hsign isPlain_sign hlast]
        exact .emptyNew hget rfl hnumber hsign hlast
      · rw [intern_plain_exhausted hsign isPlain_sign hlast]
        exact .emptyExhausted hget rfl hnumber hsign hlast
  · have hnone := h.lookup_eq_none_of_get?_setter hnumber
      (classify_append_sign_eq_setter hne hscope) hget
    rw [h.deriveSetter_of_numbers hnumber hscope hne hnone]
    exact .derived hget rfl hnumber hscope hne hnone

/-- Every resolution in a table that satisfies the invariant is one of six. -/
theorem WellFormed.resolves (h : table.WellFormed floor) (id : SymbolId) :
    table.Resolves floor id (table.record id) := by
  cases hget : table.get? id with
  | some record =>
    rw [record_of_get?_eq_some hget]
    exact .known hget
  | none =>
    by_cases hscope : id.scope = .setter
    · obtain ⟨hid, hlow, hhigh⟩ :=
        SymbolId.eq_dynamic_of_scope (by simp [hscope]) (by simp [hscope] : id.scope ≠ .junk)
      rw [hscope] at hid
      generalize id.sequence = sequence at hid hlow hhigh
      subst hid
      cases hreader : table.reader? (.dynamic sequence .setter) with
      | none =>
        rw [record_of_get?_eq_none hget, deriveSetter_of_reader?_eq_none hreader]
        refine .unknown hget fun base other hother hnumber hbase ↦ ?_
        obtain ⟨rfl, -⟩ := SymbolId.dynamic_inj hlow hhigh (hnumber.low h) (hnumber.high h)
          (by simp) (by simp) hother
        rw [h.reader?_of_numbers hnumber hbase] at hreader
        exact absurd hreader (by simp)
      | some record =>
        obtain ⟨hnumber, hbase⟩ := h.numbers_of_reader? hlow hhigh hreader
        exact h.resolves_of_numbers hget hnumber hbase
    · have hderive : table.deriveSetter id = (.ok none, table) := by
        rw [deriveSetter, if_neg hscope]
      rw [record_of_get?_eq_none hget, hderive]
      refine .unknown hget fun base sequence hid hnumber _ ↦ hscope ?_
      rw [hid]
      exact SymbolId.scope_dynamic (hnumber.low h) (hnumber.high h) (by simp)

end Table

end Interning
