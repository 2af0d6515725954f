import Interning.Registry
import Interning.Proofs.IdentifierLayout
import Interning.Proofs.ScopeRule

/-!
# The invariant of a registry's table

The identifiers of a table come from three places: the reserved ones from the operator tokens, those
of plain names from the sequence, and those of setters from the name before the sign. Writing a
record asks of none of them whether it is free. `Table.WellFormed` says why it always is. Every
record is of one of the three kinds (`Table.Entry`), the plain names are paired one to one with the
sequence numbers that were given out above the floor (`Table.Numbers`), and the floor lies above the
operators' range. So the next sequence number is free under every scope
(`Table.WellFormed.get?_next`), and a setter's identifier is free until the setter is recorded
(`Table.WellFormed.get?_setter`).

There are two ways to write, `Table.recordPlain` and `Table.recordSetter`. Both keep the invariant
(`Table.WellFormed.recordPlain`, `Table.WellFormed.recordSetter`) and take nothing away from the
table (`Table.Extends`); `Table.Grows` holds the two facts together. Counting is no change of the
names at all (`Table.SameNames`). The table of a new registry satisfies the invariant at the floor
of its setup (`Registry.wellFormed_of_create`).
-/

set_option autoImplicit false
set_option relaxedAutoImplicit false

namespace Interning

/-- A plain name, which takes a sequence number of its own: neither an operator nor a setter. -/
def IsPlain (text : Text) : Prop :=
  classify text ≠ .operator ∧ classify text ≠ .setter

namespace Table

/-- A plain name is recorded under a sequence number that was given out above the floor. -/
structure Numbers (floor : UInt64) (table : Table) (text : Text) (sequence : UInt64) : Prop where
  floor_lt : floor < sequence
  le_last : sequence ≤ table.lastSequence
  plain : IsPlain text
  lookup_eq : table.lookup text = some (.dynamic sequence (classify text))

/-- What a recorded text with its identifier may be: an operator token, a plain name with its
sequence number, or the setter of a plain name under the number of the name. -/
inductive Entry (floor : UInt64) (table : Table) : Text → SymbolId → Prop
  | operator {token : Token} (htoken : token ∈ Token.all) : Entry floor table token.text token.id
  | plain {text : Text} {sequence : UInt64} (hnumber : table.Numbers floor text sequence) :
      Entry floor table text (.dynamic sequence (classify text))
  | setter {base : Text} {sequence : UInt64} (hnumber : table.Numbers floor base sequence)
      (hscope : classify (base ++ ['=']) = .setter) :
      Entry floor table (base ++ ['=']) (.dynamic sequence .setter)

/-- The invariant of a table whose sequence numbers start above a floor. -/
structure WellFormed (floor : UInt64) (table : Table) : Prop where
  /-- The floor lies above the operators' range. -/
  reserved_le : SymbolId.reservedLimit ≤ floor
  floor_le : floor ≤ table.lastSequence
  last_le : table.lastSequence ≤ SymbolId.maxSequence
  /-- The two maps are inverse to each other. -/
  get?_iff : ∀ text id, table.get? id = some ⟨id, text⟩ ↔ table.lookup text = some id
  /-- Every operator is recorded under its reserved identifier. -/
  operator : ∀ token ∈ Token.all, table.lookup token.text = some token.id
  entry : ∀ text id, table.lookup text = some id → table.Entry floor text id
  /-- A sequence number belongs to one plain name. -/
  number_unique : ∀ text other sequence, table.Numbers floor text sequence →
    table.Numbers floor other sequence → text = other
  /-- Every sequence number that was given out belongs to a plain name. -/
  number_taken : ∀ sequence, floor < sequence → sequence ≤ table.lastSequence →
    ∃ text, table.Numbers floor text sequence

variable {floor : UInt64} {table after : Table} {text base : Text} {id : SymbolId}
  {sequence : UInt64}

/-! ### Tables with the same names -/

/-- Two tables hold the same records and have given out the same sequence numbers, whatever they
have counted. -/
structure SameNames (table after : Table) : Prop where
  idOf_eq : after.idOf = table.idOf
  textOf_eq : after.textOf = table.textOf
  lastSequence_eq : after.lastSequence = table.lastSequence

theorem SameNames.refl (table : Table) : table.SameNames table :=
  ⟨rfl, rfl, rfl⟩

theorem SameNames.lookup_eq (h : table.SameNames after) (text : Text) :
    after.lookup text = table.lookup text := by
  rw [lookup, lookup, h.idOf_eq]

theorem SameNames.get?_eq (h : table.SameNames after) (id : SymbolId) :
    after.get? id = table.get? id := by
  rw [get?, get?, h.textOf_eq]

theorem SameNames.records_eq (h : table.SameNames after) : after.records = table.records := by
  rw [records, records, h.textOf_eq]

theorem SameNames.symm (h : table.SameNames after) : after.SameNames table :=
  ⟨h.idOf_eq.symm, h.textOf_eq.symm, h.lastSequence_eq.symm⟩

theorem SameNames.trans {last : Table} (h : table.SameNames after)
    (hlast : after.SameNames last) : table.SameNames last :=
  ⟨hlast.idOf_eq.trans h.idOf_eq, hlast.textOf_eq.trans h.textOf_eq,
    hlast.lastSequence_eq.trans h.lastSequence_eq⟩

theorem sameNames_count (table : Table) (event : Counters → Counters) :
    table.SameNames (table.count event) := by
  unfold count
  split <;> exact ⟨rfl, rfl, rfl⟩

theorem sameNames_countHit (table : Table) : table.SameNames table.countHit :=
  sameNames_count table _

theorem sameNames_countMiss (table : Table) : table.SameNames table.countMiss :=
  sameNames_count table _

theorem sameNames_countDerived (table : Table) : table.SameNames table.countDerived :=
  sameNames_count table _

@[simp]
theorem lastSequence_countHit (table : Table) :
    table.countHit.lastSequence = table.lastSequence :=
  (sameNames_countHit table).lastSequence_eq

@[simp]
theorem lastSequence_countMiss (table : Table) :
    table.countMiss.lastSequence = table.lastSequence :=
  (sameNames_countMiss table).lastSequence_eq

@[simp]
theorem lastSequence_countDerived (table : Table) :
    table.countDerived.lastSequence = table.lastSequence :=
  (sameNames_countDerived table).lastSequence_eq

/-! ### Tables that grow -/

/-- A table keeps what another holds: no text and no identifier is removed or given a new partner,
and no sequence number is given back. -/
structure Extends (table after : Table) : Prop where
  lookup_eq : ∀ text id, table.lookup text = some id → after.lookup text = some id
  get?_eq : ∀ id record, table.get? id = some record → after.get? id = some record
  last_le : table.lastSequence ≤ after.lastSequence

theorem Extends.trans {last : Table} (h : table.Extends after) (hlast : after.Extends last) :
    table.Extends last where
  lookup_eq text id hlookup := hlast.lookup_eq text id (h.lookup_eq text id hlookup)
  get?_eq id record hget := hlast.get?_eq id record (h.get?_eq id record hget)
  last_le := UInt64.le_trans h.last_le hlast.last_le

theorem SameNames.extends (h : table.SameNames after) : table.Extends after where
  lookup_eq text _ hlookup := (h.lookup_eq text).trans hlookup
  get?_eq id _ hget := (h.get?_eq id).trans hget
  last_le := by
    rw [h.lastSequence_eq]
    exact UInt64.le_refl _

/-- A record of a free text under a free identifier takes nothing away. -/
theorem extends_insert (hlookup : table.lookup text = none) (hget : table.get? id = none) :
    table.Extends (table.insert text id) where
  lookup_eq other otherId hother := by
    rw [lookup_insert, if_neg, hother]
    rintro rfl
    rw [hlookup] at hother
    exact absurd hother (by simp)
  get?_eq other record hother := by
    rw [get?_insert, if_neg, hother]
    rintro rfl
    rw [hget] at hother
    exact absurd hother (by simp)
  last_le := UInt64.le_refl _

/-! ### Reading the invariant -/

theorem WellFormed.low_of_lt (h : table.WellFormed floor) (hlt : floor < sequence) :
    125 ≤ sequence := by
  have hreserved : 1000 ≤ floor.toNat := UInt64.le_iff_toNat_le.mp h.reserved_le
  have hlt' : floor.toNat < sequence.toNat := UInt64.lt_iff_toNat_lt.mp hlt
  rw [UInt64.le_iff_toNat_le]
  change 125 ≤ sequence.toNat
  omega

theorem WellFormed.lastSequence_eq_of_not_lt (h : table.WellFormed floor)
    (hlast : ¬ table.lastSequence < SymbolId.maxSequence) :
    table.lastSequence = SymbolId.maxSequence :=
  UInt64.le_antisymm h.last_le (UInt64.not_lt.mp hlast)

theorem Numbers.low (hnumber : table.Numbers floor text sequence) (h : table.WellFormed floor) :
    125 ≤ sequence :=
  h.low_of_lt hnumber.floor_lt

theorem Numbers.high (hnumber : table.Numbers floor text sequence) (h : table.WellFormed floor) :
    sequence ≤ SymbolId.maxSequence :=
  UInt64.le_trans hnumber.le_last h.last_le

/-- An identifier carries the scope that the classifier gives to its text. -/
theorem WellFormed.scope_eq (h : table.WellFormed floor) (hlookup : table.lookup text = some id) :
    id.scope = classify text := by
  cases h.entry text id hlookup with
  | @operator token htoken =>
    rw [classify_eq_operator_iff.mpr ⟨token, htoken, rfl⟩, SymbolId.scope,
      if_pos (Token.isOperator_of_mem htoken)]
  | plain hnumber => exact SymbolId.scope_dynamic (hnumber.low h) (hnumber.high h) hnumber.plain.1
  | setter hnumber hscope =>
    rw [hscope]
    exact SymbolId.scope_dynamic (hnumber.low h) (hnumber.high h) (by simp)

/-- A recorded plain name has a sequence number. -/
theorem WellFormed.exists_numbers (h : table.WellFormed floor) (hplain : IsPlain text)
    (hlookup : table.lookup text = some id) :
    ∃ sequence, table.Numbers floor text sequence ∧ id = .dynamic sequence (classify text) := by
  cases h.entry text id hlookup with
  | @operator token htoken =>
    exact absurd (classify_eq_operator_iff.mpr ⟨token, htoken, rfl⟩) hplain.1
  | plain hnumber => exact ⟨_, hnumber, rfl⟩
  | setter hnumber hscope => exact absurd hscope hplain.2

/-- The texts with a sequence number are the recorded plain names. -/
theorem WellFormed.exists_numbers_iff (h : table.WellFormed floor) :
    (∃ sequence, table.Numbers floor text sequence) ↔
      IsPlain text ∧ (table.lookup text).isSome = true := by
  rw [Option.isSome_iff_exists]
  constructor
  · rintro ⟨sequence, hnumber⟩
    exact ⟨hnumber.plain, _, hnumber.lookup_eq⟩
  · rintro ⟨hplain, id, hlookup⟩
    obtain ⟨sequence, hnumber, -⟩ := h.exists_numbers hplain hlookup
    exact ⟨sequence, hnumber⟩

theorem WellFormed.lookup_of_get? (h : table.WellFormed floor) {record : Record}
    (hget : table.get? id = some record) : table.lookup record.text = some id := by
  obtain ⟨hid, -⟩ := get?_eq_some_iff.mp hget
  cases record
  subst hid
  exact (h.get?_iff _ _).mp hget

/-- A text recorded under a dynamic identifier is a plain name with that sequence number, or the
setter of one. -/
theorem WellFormed.numbers_of_dynamic (h : table.WellFormed floor) {scope : Scope}
    (hlow : 125 ≤ sequence) (hhigh : sequence ≤ SymbolId.maxSequence) (hscope : scope ≠ .operator)
    (hlookup : table.lookup text = some (.dynamic sequence scope)) :
    (table.Numbers floor text sequence ∧ scope = classify text) ∨
      ∃ base, text = base ++ ['='] ∧ table.Numbers floor base sequence ∧ scope = .setter := by
  generalize hid : SymbolId.dynamic sequence scope = id at hlookup
  cases h.entry text id hlookup with
  | @operator token htoken =>
    have hoperator := Token.isOperator_of_mem htoken
    rw [← hid, SymbolId.isOperator_dynamic hlow hhigh] at hoperator
    exact absurd hoperator (by decide)
  | plain hnumber =>
    obtain ⟨rfl, rfl⟩ := SymbolId.dynamic_inj hlow hhigh (hnumber.low h) (hnumber.high h) hscope
      hnumber.plain.1 hid
    exact .inl ⟨hnumber, rfl⟩
  | setter hnumber _ =>
    obtain ⟨rfl, rfl⟩ := SymbolId.dynamic_inj hlow hhigh (hnumber.low h) (hnumber.high h) hscope
      (by simp) hid
    exact .inr ⟨_, rfl, hnumber, rfl⟩

/-- A plain name has one sequence number. -/
theorem Numbers.sequence_eq (hnumber : table.Numbers floor text sequence)
    (h : table.WellFormed floor) {other : UInt64} (hother : table.Numbers floor text other) :
    sequence = other := by
  have hid : SymbolId.dynamic sequence (classify text) = .dynamic other (classify text) :=
    Option.some.inj (hnumber.lookup_eq.symm.trans hother.lookup_eq)
  exact (SymbolId.dynamic_inj (hnumber.low h) (hnumber.high h) (hother.low h) (hother.high h)
    hnumber.plain.1 hnumber.plain.1 hid).1

/-- A recorded setter has the sequence number of its name. -/
theorem WellFormed.eq_of_lookup_setter (h : table.WellFormed floor)
    (hnumber : table.Numbers floor base sequence)
    (hscope : classify (base ++ ['=']) = .setter)
    (hlookup : table.lookup (base ++ ['=']) = some id) : id = .dynamic sequence .setter := by
  have hid : id.scope = .setter := (h.scope_eq hlookup).trans hscope
  obtain ⟨heq, hlow, hhigh⟩ :=
    SymbolId.eq_dynamic_of_scope (by simp [hid]) (by simp [hid] : id.scope ≠ .junk)
  rw [hid] at heq
  rw [heq] at hlookup
  rcases h.numbers_of_dynamic hlow hhigh (by simp) hlookup with
    ⟨hother, -⟩ | ⟨other, htext, hother, -⟩
  · exact absurd hscope hother.plain.2
  · obtain rfl := List.append_cancel_right htext
    rw [heq, hnumber.sequence_eq h hother]

/-! ### Identifiers that are free -/

/-- The identifiers of the next sequence number are free. -/
theorem WellFormed.get?_next (h : table.WellFormed floor)
    (hlast : table.lastSequence < SymbolId.maxSequence) {scope : Scope}
    (hscope : scope ≠ .operator) :
    table.get? (.dynamic (table.lastSequence + 1) scope) = none := by
  have hlt := SymbolId.lt_succ hlast
  have hlow : 125 ≤ table.lastSequence + 1 :=
    h.low_of_lt (UInt64.lt_of_le_of_lt h.floor_le hlt)
  have hhigh := SymbolId.succ_le_maxSequence hlast
  by_contra hget
  obtain ⟨record, hrecord⟩ := Option.ne_none_iff_exists'.mp hget
  rcases h.numbers_of_dynamic hlow hhigh hscope (h.lookup_of_get? hrecord) with
    ⟨hnumber, -⟩ | ⟨_, -, hnumber, -⟩
  · exact absurd hlt (UInt64.not_lt.mpr hnumber.le_last)
  · exact absurd hlt (UInt64.not_lt.mpr hnumber.le_last)

/-- The setter's identifier of a numbered name is free while the setter has no record. -/
theorem WellFormed.get?_setter (h : table.WellFormed floor)
    (hnumber : table.Numbers floor base sequence) (hnone : table.lookup (base ++ ['=']) = none) :
    table.get? (.dynamic sequence .setter) = none := by
  by_contra hget
  obtain ⟨record, hrecord⟩ := Option.ne_none_iff_exists'.mp hget
  have hlookup := h.lookup_of_get? hrecord
  rcases h.numbers_of_dynamic (hnumber.low h) (hnumber.high h) (by simp) hlookup with
    ⟨hother, hscope⟩ | ⟨other, htext, hother, -⟩
  · exact absurd hscope.symm hother.plain.2
  · rw [htext, h.number_unique other base sequence hother hnumber, hnone] at hlookup
    exact absurd hlookup (by simp)

/-! ### New records -/

/-- The table that records a plain name under the next sequence number. -/
def recordPlain (table : Table) (text : Text) : Table :=
  { table with lastSequence := table.lastSequence + 1 }.insert text
    (.dynamic (table.lastSequence + 1) (classify text))

/-- The table that records the setter of a name under the sequence number of the name. -/
def recordSetter (table : Table) (base : Text) (sequence : UInt64) : Table :=
  table.insert (base ++ ['=']) (.dynamic sequence .setter)

theorem lookup_recordPlain (other : Text) :
    (table.recordPlain text).lookup other =
      if text = other then some (.dynamic (table.lastSequence + 1) (classify text))
      else table.lookup other :=
  lookup_insert _ _ _ _

@[simp]
theorem lastSequence_recordPlain (text : Text) :
    (table.recordPlain text).lastSequence = table.lastSequence + 1 := rfl

@[simp]
theorem lastSequence_recordSetter (base : Text) (sequence : UInt64) :
    (table.recordSetter base sequence).lastSequence = table.lastSequence := rfl

theorem lookup_recordSetter (other : Text) :
    (table.recordSetter base sequence).lookup other =
      if base ++ ['='] = other then some (.dynamic sequence .setter) else table.lookup other :=
  lookup_insert _ _ _ _

theorem get?_recordSetter (other : SymbolId) :
    (table.recordSetter base sequence).get? other =
      if .dynamic sequence .setter = other then some ⟨.dynamic sequence .setter, base ++ ['=']⟩
      else table.get? other :=
  get?_insert _ _ _ _

/-- A record under a free identifier keeps the two maps inverse to each other. -/
theorem get?_insert_iff (h : ∀ text id, table.get? id = some ⟨id, text⟩ ↔
      table.lookup text = some id)
    (hlookup : table.lookup text = none) (hget : table.get? id = none) (other : Text)
    (otherId : SymbolId) :
    (table.insert text id).get? otherId = some ⟨otherId, other⟩ ↔
      (table.insert text id).lookup other = some otherId := by
  rw [get?_insert, lookup_insert]
  by_cases hid : id = otherId
  · subst hid
    by_cases htext : text = other
    · subst htext
      simp
    · have hother : table.lookup other ≠ some id := by
        rw [Ne, ← h, hget]
        simp
      simp [htext, hother]
  · by_cases htext : text = other
    · subst htext
      have hother : table.get? otherId ≠ some ⟨otherId, text⟩ := by
        rw [Ne, h, hlookup]
        simp
      simp [hid, hother]
    · simp [hid, htext, h]

/-! ### Preservation -/

/-- A table that grows keeps the numbers of its names. -/
theorem Extends.numbers (h : table.Extends after) (hnumber : table.Numbers floor text sequence) :
    after.Numbers floor text sequence where
  floor_lt := hnumber.floor_lt
  le_last := UInt64.le_trans hnumber.le_last h.last_le
  plain := hnumber.plain
  lookup_eq := h.lookup_eq _ _ hnumber.lookup_eq

theorem Extends.entry (h : table.Extends after) (hentry : table.Entry floor text id) :
    after.Entry floor text id := by
  cases hentry with
  | operator htoken => exact .operator htoken
  | plain hnumber => exact .plain (h.numbers hnumber)
  | setter hnumber hscope => exact .setter (h.numbers hnumber) hscope

/-- The invariant reads nothing but the two maps and the last number. -/
theorem SameNames.wellFormed (hsame : table.SameNames after) (h : table.WellFormed floor) :
    after.WellFormed floor := by
  have hlast := hsame.lastSequence_eq
  constructor
  case reserved_le => exact h.reserved_le
  case floor_le => exact hlast ▸ h.floor_le
  case last_le => exact hlast ▸ h.last_le
  case get?_iff =>
    intro text id
    rw [hsame.get?_eq, hsame.lookup_eq]
    exact h.get?_iff text id
  case operator =>
    intro token htoken
    exact hsame.extends.lookup_eq _ _ (h.operator token htoken)
  case entry =>
    intro text id hid
    exact hsame.extends.entry (h.entry text id (hsame.symm.extends.lookup_eq text id hid))
  case number_unique =>
    intro text other sequence htext hother
    exact h.number_unique text other sequence (hsame.symm.extends.numbers htext)
      (hsame.symm.extends.numbers hother)
  case number_taken =>
    intro sequence hfloor hle
    obtain ⟨text, hnumber⟩ := h.number_taken sequence hfloor (hlast ▸ hle)
    exact ⟨text, hsame.extends.numbers hnumber⟩

theorem WellFormed.extends_recordPlain (h : table.WellFormed floor)
    (hlast : table.lastSequence < SymbolId.maxSequence) (hplain : IsPlain text)
    (hnone : table.lookup text = none) : table.Extends (table.recordPlain text) := by
  have hnext : table.Extends { table with lastSequence := table.lastSequence + 1 } :=
    ⟨fun _ _ hlookup ↦ hlookup, fun _ _ hget ↦ hget, UInt64.le_of_lt (SymbolId.lt_succ hlast)⟩
  exact hnext.trans (extends_insert hnone (h.get?_next hlast hplain.1))

theorem WellFormed.extends_recordSetter (h : table.WellFormed floor)
    (hnumber : table.Numbers floor base sequence) (hnone : table.lookup (base ++ ['=']) = none) :
    table.Extends (table.recordSetter base sequence) :=
  extends_insert hnone (h.get?_setter hnumber hnone)

/-- What is numbered after a plain name is recorded: the name, and what was numbered before. -/
theorem numbers_recordPlain_iff (h : table.WellFormed floor)
    (hlast : table.lastSequence < SymbolId.maxSequence) (hplain : IsPlain text)
    (hnone : table.lookup text = none) {other : Text} :
    (table.recordPlain text).Numbers floor other sequence ↔
      table.Numbers floor other sequence ∨ other = text ∧ sequence = table.lastSequence + 1 := by
  have hlt := SymbolId.lt_succ hlast
  constructor
  · intro hnumber
    have hhigh := SymbolId.succ_le_maxSequence hlast
    have hlookup := hnumber.lookup_eq
    rw [lookup_recordPlain] at hlookup
    by_cases htext : text = other
    · subst htext
      rw [if_pos rfl] at hlookup
      obtain ⟨hsequence, -⟩ := SymbolId.dynamic_inj
        (h.low_of_lt (UInt64.lt_of_le_of_lt h.floor_le hlt)) hhigh (h.low_of_lt hnumber.floor_lt)
        (UInt64.le_trans hnumber.le_last hhigh) hplain.1 hplain.1 (Option.some.inj hlookup)
      exact .inr ⟨rfl, hsequence.symm⟩
    · rw [if_neg htext] at hlookup
      have hle : sequence ≤ table.lastSequence := by
        rcases (SymbolId.le_succ_iff hlast).mp hnumber.le_last with hle | rfl
        · exact hle
        · -- The next number has no record yet.
          rw [← h.get?_iff, h.get?_next hlast hnumber.plain.1] at hlookup
          exact absurd hlookup (by simp)
      exact .inl ⟨hnumber.floor_lt, hle, hnumber.plain, hlookup⟩
  · rintro (hnumber | ⟨rfl, rfl⟩)
    · exact (h.extends_recordPlain hlast hplain hnone).numbers hnumber
    · exact ⟨UInt64.lt_of_le_of_lt h.floor_le hlt, UInt64.le_refl _, hplain,
        by rw [lookup_recordPlain, if_pos rfl]⟩

theorem WellFormed.recordPlain (h : table.WellFormed floor)
    (hlast : table.lastSequence < SymbolId.maxSequence) (hplain : IsPlain text)
    (hnone : table.lookup text = none) : (table.recordPlain text).WellFormed floor := by
  have hlt := SymbolId.lt_succ hlast
  have hnumbers {other : Text} {sequence : UInt64} :
      (Table.recordPlain table text).Numbers floor other sequence ↔
        table.Numbers floor other sequence ∨
          other = text ∧ sequence = table.lastSequence + 1 :=
    numbers_recordPlain_iff h hlast hplain hnone
  have hnew : (Table.recordPlain table text).Numbers floor text (table.lastSequence + 1) :=
    hnumbers.mpr (.inr ⟨rfl, rfl⟩)
  constructor
  case reserved_le => exact h.reserved_le
  case floor_le => exact UInt64.le_trans h.floor_le (UInt64.le_of_lt hlt)
  case last_le => exact SymbolId.succ_le_maxSequence hlast
  case get?_iff =>
    intro other id
    exact get?_insert_iff h.get?_iff hnone (h.get?_next hlast hplain.1) other id
  case operator =>
    intro token htoken
    rw [lookup_recordPlain, if_neg, h.operator token htoken]
    rintro rfl
    exact hplain.1 (classify_eq_operator_iff.mpr ⟨token, htoken, rfl⟩)
  case entry =>
    intro other id hid
    rw [lookup_recordPlain] at hid
    by_cases htext : text = other
    · subst htext
      rw [if_pos rfl, Option.some.injEq] at hid
      subst hid
      exact .plain hnew
    · rw [if_neg htext] at hid
      exact (h.extends_recordPlain hlast hplain hnone).entry (h.entry other id hid)
  case number_unique =>
    intro first second sequence hfirst hsecond
    rcases hnumbers.mp hfirst with hold | ⟨hname, hnext⟩ <;>
      rcases hnumbers.mp hsecond with hold' | ⟨hname', hnext'⟩
    · exact h.number_unique first second sequence hold hold'
    · exact absurd hlt (UInt64.not_lt.mpr (hnext' ▸ hold.le_last))
    · exact absurd hlt (UInt64.not_lt.mpr (hnext ▸ hold'.le_last))
    · rw [hname, hname']
  case number_taken =>
    intro sequence hfloor hle
    rcases (SymbolId.le_succ_iff hlast).mp hle with hle | rfl
    · obtain ⟨other, hnumber⟩ := h.number_taken sequence hfloor hle
      exact ⟨other, hnumbers.mpr (.inl hnumber)⟩
    · exact ⟨text, hnew⟩

/-- Recording a setter numbers no plain name. -/
theorem numbers_recordSetter_iff (hscope : classify (base ++ ['=']) = .setter) {other : Text}
    {otherSequence : UInt64} :
    (table.recordSetter base sequence).Numbers floor other otherSequence ↔
      table.Numbers floor other otherSequence := by
  have hlookup (hplain : IsPlain other) :
      (table.recordSetter base sequence).lookup other = table.lookup other := by
    rw [lookup_recordSetter, if_neg]
    rintro rfl
    exact hplain.2 hscope
  constructor
  · intro h
    exact ⟨h.floor_lt, h.le_last, h.plain, (hlookup h.plain).symm.trans h.lookup_eq⟩
  · intro h
    exact ⟨h.floor_lt, h.le_last, h.plain, (hlookup h.plain).trans h.lookup_eq⟩

theorem WellFormed.recordSetter (h : table.WellFormed floor)
    (hnumber : table.Numbers floor base sequence)
    (hscope : classify (base ++ ['=']) = .setter)
    (hnone : table.lookup (base ++ ['=']) = none) :
    (table.recordSetter base sequence).WellFormed floor := by
  have hnumbers {other : Text} {otherSequence : UInt64} :
      (Table.recordSetter table base sequence).Numbers floor other otherSequence ↔
        table.Numbers floor other otherSequence :=
    numbers_recordSetter_iff hscope
  constructor
  case reserved_le => exact h.reserved_le
  case floor_le => exact h.floor_le
  case last_le => exact h.last_le
  case get?_iff =>
    intro other id
    exact get?_insert_iff h.get?_iff hnone (h.get?_setter hnumber hnone) other id
  case operator =>
    intro token htoken
    rw [lookup_recordSetter, if_neg, h.operator token htoken]
    intro htext
    rw [htext, classify_eq_operator_iff.mpr ⟨token, htoken, rfl⟩] at hscope
    exact absurd hscope (by decide)
  case entry =>
    intro other id hid
    rw [lookup_recordSetter] at hid
    by_cases htext : base ++ ['='] = other
    · subst htext
      rw [if_pos rfl, Option.some.injEq] at hid
      subst hid
      exact .setter (hnumbers.mpr hnumber) hscope
    · rw [if_neg htext] at hid
      exact (h.extends_recordSetter hnumber hnone).entry (h.entry other id hid)
  case number_unique =>
    intro first second sequence hfirst hsecond
    exact h.number_unique first second sequence (hnumbers.mp hfirst) (hnumbers.mp hsecond)
  case number_taken =>
    intro sequence hfloor hle
    obtain ⟨other, hold⟩ := h.number_taken sequence hfloor hle
    exact ⟨other, hnumbers.mpr hold⟩

/-! ### Growth -/

/-- A table has grown into another, which satisfies the invariant. -/
structure Grows (floor : UInt64) (table after : Table) : Prop where
  extends_table : table.Extends after
  wellFormed : after.WellFormed floor

theorem Grows.trans {last : Table} (h : table.Grows floor after) (hlast : after.Grows floor last) :
    table.Grows floor last :=
  ⟨h.extends_table.trans hlast.extends_table, hlast.wellFormed⟩

theorem WellFormed.grows (h : table.WellFormed floor) (hsame : table.SameNames after) :
    table.Grows floor after :=
  ⟨hsame.extends, hsame.wellFormed h⟩

theorem WellFormed.grows_recordPlain (h : table.WellFormed floor)
    (hlast : table.lastSequence < SymbolId.maxSequence) (hplain : IsPlain text)
    (hnone : table.lookup text = none) : table.Grows floor (table.recordPlain text) :=
  ⟨h.extends_recordPlain hlast hplain hnone, h.recordPlain hlast hplain hnone⟩

theorem WellFormed.grows_recordSetter (h : table.WellFormed floor)
    (hnumber : table.Numbers floor base sequence) (hscope : classify (base ++ ['=']) = .setter)
    (hnone : table.lookup (base ++ ['=']) = none) :
    table.Grows floor (table.recordSetter base sequence) :=
  ⟨h.extends_recordSetter hnumber hnone, h.recordSetter hnumber hscope hnone⟩

/-! ### The start -/

theorem lookup_register (table : Table) (token : Token) (text : Text) :
    (table.register token).lookup text =
      (table.lookup text).or (if token.text = text then some token.id else none) := by
  unfold register
  cases hlookup : table.lookup token.text with
  | some id =>
    by_cases htext : token.text = text
    · subst htext
      simp [hlookup]
    · simp [htext]
  | none =>
    by_cases htext : token.text = text
    · subst htext
      simp [lookup_insert, hlookup]
    · simp [lookup_insert, htext]

/-- After operators are registered, a text without a record has the identifier of the first
operator spelled so. -/
theorem lookup_foldl_register (tokens : List Token) (table : Table) (text : Text) :
    (tokens.foldl register table).lookup text =
      (table.lookup text).or ((tokens.find? (·.text == text)).map Token.id) := by
  induction tokens generalizing table with
  | nil => simp
  | cons token rest ih =>
    rw [List.foldl_cons, ih, lookup_register, Option.or_assoc, List.find?_cons]
    by_cases htext : token.text = text
    · simp [htext]
    · have hne : (token.text == text) = false := by simpa using htext
      simp [htext, hne]

/-- Registering operators with distinct identifiers that are free keeps the two maps inverse to
each other. -/
theorem get?_foldl_register_iff (tokens : List Token) (hdistinct : (tokens.map Token.id).Nodup)
    (table : Table) (hfree : ∀ token ∈ tokens, table.get? token.id = none)
    (h : ∀ text id, table.get? id = some ⟨id, text⟩ ↔ table.lookup text = some id) (text : Text)
    (id : SymbolId) :
    (tokens.foldl register table).get? id = some ⟨id, text⟩ ↔
      (tokens.foldl register table).lookup text = some id := by
  induction tokens generalizing table with
  | nil => exact h text id
  | cons token rest ih =>
    rw [List.map_cons, List.nodup_cons] at hdistinct
    rw [List.foldl_cons]
    have hrest : ∀ other ∈ rest, table.get? other.id = none := fun other hother ↦
      hfree other (List.mem_cons_of_mem token hother)
    cases hlookup : table.lookup token.text with
    | some taken =>
      have hregister : table.register token = table := by simp [register, hlookup]
      rw [hregister]
      exact ih hdistinct.2 table hrest h
    | none =>
      have hregister : table.register token = table.insert token.text token.id := by
        simp [register, hlookup]
      rw [hregister]
      refine ih hdistinct.2 _ (fun other hother ↦ ?_)
        (get?_insert_iff h hlookup (hfree token List.mem_cons_self))
      rw [get?_insert, if_neg, hrest other hother]
      intro heq
      exact hdistinct.1 (heq ▸ List.mem_map_of_mem hother)

theorem lookup_empty (counting : Bool) (text : Text) : (empty counting).lookup text = none := by
  simp [lookup, empty]

theorem get?_empty (counting : Bool) (id : SymbolId) : (empty counting).get? id = none := by
  simp [get?, empty]

/-- A table that holds the operators alone satisfies the invariant of any floor that is allowed,
once its sequence numbers start there. -/
theorem wellFormed_startSequence
    (hinverse : ∀ text id, table.get? id = some ⟨id, text⟩ ↔ table.lookup text = some id)
    (hlookup : ∀ text, table.lookup text = (Token.find? text).map Token.id)
    (hreserved : SymbolId.reservedLimit ≤ floor) (hmax : floor ≤ SymbolId.maxSequence) :
    (table.startSequence floor).WellFormed floor := by
  have hnumbers {text : Text} {sequence : UInt64} :
      ¬ (table.startSequence floor).Numbers floor text sequence := fun hnumber ↦
    absurd hnumber.floor_lt (UInt64.not_lt.mpr hnumber.le_last)
  constructor
  case reserved_le => exact hreserved
  case floor_le => exact UInt64.le_refl floor
  case last_le => exact hmax
  case get?_iff => exact hinverse
  case operator =>
    intro token htoken
    have hfind := hlookup token.text
    rw [Token.find?_text_of_mem htoken] at hfind
    exact hfind
  case entry =>
    intro text id hid
    have hfind := (hlookup text).symm.trans hid
    obtain ⟨token, htoken, rfl⟩ := Option.map_eq_some_iff.mp hfind
    obtain rfl := Token.text_of_find? htoken
    exact .operator (Token.mem_all_of_find? htoken)
  case number_unique =>
    intro text other sequence htext _
    exact absurd htext hnumbers
  case number_taken =>
    intro sequence hfloor hle
    exact absurd hfloor (UInt64.not_lt.mpr hle)

theorem lookup_startSequence (table : Table) (floor : UInt64) (text : Text) :
    (table.startSequence floor).lookup text = table.lookup text := rfl

/-- The operators are all that is recorded at the start. -/
theorem lookup_registered (counting : Bool) (text : Text) :
    (Token.all.foldl register (empty counting)).lookup text =
      (Token.find? text).map Token.id := by
  rw [lookup_foldl_register, lookup_empty, Option.none_or, Token.find?]

theorem wellFormed_registered (counting : Bool) (hreserved : SymbolId.reservedLimit ≤ floor)
    (hmax : floor ≤ SymbolId.maxSequence) :
    ((Token.all.foldl register (empty counting)).startSequence floor).WellFormed floor := by
  have hdistinct : (Token.all.map Token.id).Nodup := by decide
  refine wellFormed_startSequence ?_ (lookup_registered counting) hreserved hmax
  exact get?_foldl_register_iff Token.all hdistinct (empty counting)
    (fun token _ ↦ get?_empty counting token.id) (by simp [lookup_empty, get?_empty])

end Table

/-! ### The registry of a checked setup -/

/-- A checked floor lies above the operators' range and leaves a number to give out. -/
theorem RegistryConfig.floor_of_validate {config : RegistryConfig}
    (h : config.validate = .ok ()) :
    SymbolId.reservedLimit ≤ config.sequenceFloor ∧
      config.sequenceFloor < SymbolId.maxSequence := by
  unfold validate at h
  split at h
  · simp at h
  · next hlow =>
    split at h
    · simp at h
    · next hhigh =>
      have hmax : maxSequenceFloor < SymbolId.maxSequence := by decide
      exact ⟨UInt64.not_lt.mp hlow, UInt64.lt_of_le_of_lt (UInt64.not_lt.mp hhigh) hmax⟩

namespace Registry

/-- The operators are all that a new registry holds. -/
theorem lookup_bootstrap (config : RegistryConfig) (text : Text) :
    (bootstrap config).table.lookup text = (Token.find? text).map Token.id := by
  rw [bootstrap, Table.lookup_startSequence, Table.lookup_registered]

theorem lookup_bootstrap_of_isPlain (config : RegistryConfig) {text : Text}
    (hplain : IsPlain text) : (bootstrap config).table.lookup text = none := by
  rw [lookup_bootstrap, Option.map_eq_none_iff, ← Option.not_isSome_iff_eq_none,
    find?_isSome_iff, ← classify_eq_operator_iff]
  exact hplain.1

theorem lastSequence_bootstrap (config : RegistryConfig) :
    (bootstrap config).table.lastSequence = config.sequenceFloor := rfl

theorem create_eq_ok_iff {config : RegistryConfig} {registry : Registry} :
    create config = .ok registry ↔ config.validate = .ok () ∧ bootstrap config = registry := by
  unfold create
  cases config.validate <;> simp

/-- The registry of a setup that passed the check satisfies the invariant of its floor. -/
theorem wellFormed_of_create {config : RegistryConfig} {registry : Registry}
    (h : create config = .ok registry) :
    registry.config = config ∧ registry.table.WellFormed config.sequenceFloor := by
  obtain ⟨hvalid, rfl⟩ := create_eq_ok_iff.mp h
  obtain ⟨hlow, hhigh⟩ := RegistryConfig.floor_of_validate hvalid
  exact ⟨rfl, Table.wellFormed_registered config.statsEnabled hlow (UInt64.le_of_lt hhigh)⟩

end Registry

end Interning
